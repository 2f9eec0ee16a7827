/-!
Letters, digits and words.

A character class is an array of inclusive ranges of code points in ascending
order. Membership is decided by binary search. A word character is a letter, a digit of
any script, or the underscore. The decimal digits of each script stand in a run of ten.
-/

namespace SetTop.Text

abbrev Ranges := Array (Nat × Nat)

/-- The digits of a number in base 16, in front of others. -/
def rowDigits : (fuel : Nat) → Nat → List Nat → List Nat
  | 0, _, ds => ds
  | fuel + 1, n, ds => if n = 0 then ds else rowDigits fuel (n / 16) (n % 16 :: ds)

/-- The numbers in a row of digits. A number is written in base 8, and its first digit is larger by
8, so that it shows where the number starts. -/
def numerals (n : Nat) : List Nat → List Nat
  | [] => [n]
  | d :: ds => if d < 8 then numerals (8 * n + d) ds else n :: numerals (d - 8) ds

def rowNumerals (rows : List Nat) : List Nat := (numerals 0 (rows.flatMap (rowDigits 100 · []))).tail

/-- Ranges by the steps between their ends: from the end of one to the start of the next, and from
there to its end. -/
def Ranges.ofSteps (rows : List Nat) : Ranges :=
  (go 0 (rowNumerals rows)).toArray
where
  go (n : Nat) : List Nat → List (Nat × Nat)
    | gap :: length :: rest => (n + gap, n + gap + length) :: go (n + gap + length) rest
    | _ => []

def Ranges.search (rs : Ranges) (n : Nat) : Nat → Nat → Nat → Bool
  | 0, _, _ => false
  | fuel + 1, lo, hi =>
    if lo < hi then
      let mid := (lo + hi) / 2
      match rs[mid]? with
      | none => false
      | some (a, b) =>
        if n < a then rs.search n fuel lo mid
        else if b < n then rs.search n fuel (mid + 1) hi
        else true
    else false

def Ranges.has (rs : Ranges) (n : Nat) : Bool := rs.search n (rs.size + 1) 0 rs.size

def alphanumeric : Ranges := .ofSteps [
  0xe09190b1fb1e08909a8c9aaaa6ab6af11d9397c908a8a02ca9bba8f8aaa8aa3a922aa1291a45ac5b8fd0910b2dbd6,
  0xd2a691d9a942a8a099096b8a18ab5b693094897d2929d8ea5d8928c8b0b09092ea7ada2d1f3e5c8a389091d91a97df,
  0xb9ba5aea8cbc8a18969aad93bdb891dd9ba5aea9a9a9c0ba89091baa190aaaa5aea9acc8a38a09d9192894fb9ba5ae,
  0xa9acc8b79aad91ae948adcaabc9a8a9c9cac93a78a694a3faaaa6a97c8b3ab8b9d9191ea8dfaaaa6a91acc8c09a9d,
  0x91a9a290aaad0b8a18eaa91da2adea1ca7a90a8bec091a2d7a995e9291d09a8acaa7a8a91a9928bca89291bbc18c0,
  0xa395fac3b4c964d2a592fddbc8c990ad94958a91fc5a8e8bd2ad14abbea8abbd0abbc0abbea8abb96af0abb90297a3,
  0xc97a1925bdc9153ba0ab1e912c9290a196a297a19794aaa0e3c48d8c91f91a791f93090cbc1a8e90593b6d0c7bc94,
  0xd3db1f92c6a692e4d491f91968936d6a2fc91d2b596e7b3c3b591ce0b9090d2bad2bada9c8ea77901c25bdbc5bdbfa,
  0x8a8a8ab6be4aea8caaecbbdd94eaae9649bde92f949468d8b91a8ccf8a8a8aba92bbecd8af19327f3917a59167b5,
  0xa155b44fbc9928bc5a8e8be7908a1a692eaeaeaeaeaeaeae9218f26ab29090cbcd925faa931abed2a935cb93b7e197,
  0xc191b7fa96c191d096d0194677901d3214904d5bc14cb3a5d6a1b6b917d090b946bf7e9a8acb197aaabaa696d93e3,
  0x97e1b591b1dc8a9ac593a6b2b490d6b592fcab0ad0b0aafd91fa6c8ce1a8c9bcb8a8b1ab9290a95dbdbd92eaead2a,
  0x95f9629691fa564395a6de0a0405d55b951c7e95ce8a91a94aca8a9a9a953c2d52a3f7be5d193965caa06a49190b1f,
  0xb194930cdbdbdbac493ab1aa2a9a96b95c397295d495f0a29b65b4ce0a1b2dc392b5ec593b5bc3dfacd3a35b91fc3d,
  0xc3dc791e39592a96aea9a92a96aea9904c6692a593fb1dad1a90906db8ad3a9c8ba6bb6bc59190e1a2a9ec0db1907,
  0xe7da3bd6a0baaab49390b0b6ab7c1fab3fca1e593a5bb2eb1b0e921910f0e296e290d19591c47b6ad1f9917c791a5,
  0x94bb4a1d7b3a5a695e4b3b5a9b896d4c1b0909192c3a091d8b891c2c895d797b9492a8da394a1ab0925ea8aba96a91,
  0x90d6a29194fb9ba5aea9acc8a3895ca37e4a3be91eab7d7a59a89191a47d6d2bc5d7a589491c7d29689091e7b2a693,
  0xdea72d396592295fb8bfa9aa7a08a89791907fbc6a18a8b5893c7908a6894d5a48a3910c1090ac4a28a0b4eb5961ea,
  0x9ac5a689291fda9ab79789091c67a2a768a0a4d49631947956a2b03d115940a0a056f7229106a0672907090b6a91f,
  0x916a91fb5a3d7a1b9591aeaa4ea29261926952912e8903949019a8b59376791a325d390a1350baea9ac42d6aa2b91,
  0xe13c405952e94c90909193107a3955b0a10924a906a9b8b9bba93a8aea900abbfaeab3abaca8cead23bb0ab0ab6ab0,
  0xab6ab0ab6ab0ab6ab0afbe1b401b6f42d493eb91d8d02b5a3d3d91a347eaba9a96ab04b90e1903908d919430f2aaab,
  0x915d4a96b03bab2a9a8b8a91aba8a8f8d8a8a8aaa9a8b8a8a8a8a8a9a8bbaeababa8a91aa0eaacaa0910594d34491,
  0xa007923337c19007090b35b932019796460e0409035a74391512]

def zeroDigits : Array Nat := #[
    48, 1632, 1776, 1984, 2406, 2534, 2662, 2790, 2918, 3046, 3174, 3302, 3430, 3558, 3664, 3792,
    3872, 4160, 4240, 6112, 6160, 6470, 6608, 6784, 6800, 6992, 7088, 7232, 7248, 42528, 43216,
    43264, 43472, 43504, 43600, 44016, 65296, 66720, 68912, 69734, 69872, 69942, 70096, 70384,
    70736, 70864, 71248, 71360, 71472, 71904, 72016, 72784, 73040, 73120, 92768, 92864, 93008,
    120782, 120792, 120802, 120812, 120822, 123200, 123632, 125264, 130032]

def isAlphanumeric (c : Char) : Bool := alphanumeric.has c.toNat

def isWordChar (c : Char) : Bool := c == '_' || isAlphanumeric c

def digitValue? (c : Char) : Option Nat :=
  if '0' ≤ c && c ≤ '9' then some (c.toNat - 48)
  else if c.toNat < 128 then none
  else (zeroDigits.find? fun z => z ≤ c.toNat && c.toNat < z + 10).map fun z => c.toNat - z

def isDecimalDigit (c : Char) : Bool := (digitValue? c).isSome

end SetTop.Text
