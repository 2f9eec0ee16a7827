import SetTop.Text.Word

/-!
Lower case.

Each run of the table covers the code points from `first` to `last` in steps of `step` and moves
each of them by `delta`. Two letters need more than the table: the dotted capital I becomes two
characters, and the capital sigma has a form of its own at the end of a word, that is behind a
letter with case and before none. Marks and apostrophes are passed over on both sides.
-/

namespace SetTop.Text

def casedLetters : Ranges := .ofSteps [
  0x901b1fb1e08938d8ea6ab6ab02abdb17ab2b01bb9caa8f8aaa8aa3a922aa1291a45ac592d0d430c5a8e8bd2ba9241,
  0x925bdc2039090d2ba901d390094ac1946c25bdbc5bdbfa8a8a8ab6be4aea8caaecbbdd94eaaec068d8b91a8ccf8a8a,
  0x8abadd8bbecd8a2b7c99462e3b427973b946fbc995c5a8e8f4423d5a3b3a07915aa6cbaf2e9a8acb49c89466d2e90,
  0x90917c7501e95ca012b1fb1a246917941c3dc396592a96aea9a92a96aea9b304e296e2d656f7d2541f7e2601924a,
  0x906a9b8b9bba93a8aea900abbfaeab3abaca8cead23bb0ab0ab6ab0ab6ab0ab6ab0ab6ab0afb46591aa3c742903,
  0xb755b1fb1fb1]

def passedOver : Ranges := .ofSteps [
  0xc78f8948c48a89108d8a8d8b9f70a77d9d8929a8b74eb208e8e2d4a8a9a9a8d5894d9392a8c4893a4a18946fa91ab,
  0xc28a8b7b293492f392d8b8b1a7d4ad58909ffd2f1f08a8dfd8ce939968a08f38db918a59b38b9f28d9d9bac8b79c8,
  0x949f28dca9d8a59a7da8f38b8ab918909949b78f68958e38c8f08aaeaab909949b68f38b8f8e9a59b59f29db918a59,
  0xb68911890aa89338be94909438b90928ad9139b48a8a8f095aca9e92ac3928947bada9b9b29daa1b968b9f8a089378,
  0x9141a9663ab69b79b799019ae918b92c8e8d6ce489029c38967ad9928fab349b8f38aea8a8bff91b8d0891b6e2be18,
  0xaca8e8d190959c1bb9aaf18a9c8aaf3fb9901d923aa94aed8f8c9e3f6968c3944e768aa94a96a96a96995c919938b8,
  0xbce2ca91a8968a194e4c0d6149962a9768a08941b7e08f268c5bcce8936d936ae74278a343dc178943ba91a8b5b921,
  0x997c19178b0a950ac9918c8d8b29e8a309b3a1968c7fb292d7ae18bbb9a28a69903db9b9958918c48948e48aab9e9a,
  0x8b48979e9a8945c92a9728b8d8c74618a24a0907697c89597c38b8a528908f8948c48a8e08d699048a6a90028b438,
  0xa26ca006dad1a909107aa9ebd1ad8a4699076be049a3292e2b9748e796d28b993ae2bb9b8d8938e3ac5caff78959e5,
  0x9093bb8940ab8a9f8a418cfa69f29c8c6eccb04fbaa8b08925da8d9a9b57bf9a9b49926fb8a99538a8bda8946abbac,
  0xc0490a9c019a8d8a21bb9d8c191d1dbb91892dbad794a9e27eada8923a5bea9a9973dc8a9aea89119c8a8d34992474,
  0x90b3270cf4e92ba0148900a09019a9c0014baea9e2379ab91135d5ba69041a9297beb7ba25ab674e6de1918978a7ca,
  0x96a521eaa0bea9acc0695d618f6ba741e956fd260cb0060028b7937a01b57]

def startsCased (cs : List Char) : Bool :=
  match cs.dropWhile fun c => passedOver.has c.toNat with
  | c :: _ => casedLetters.has c.toNat
  | [] => false

structure CaseRun where
  first : Nat
  last : Nat
  step : Nat
  delta : Int

/-- Runs by numbers, three for each: the step from the end of the run before, the number of steps in
the run, and `delta`, whose sign and the kind of step stand in the last two bits. -/
def CaseRun.ofSteps (n : Nat) : List Nat → List CaseRun
  | gap :: count :: code :: rest =>
    let first := n + gap
    let step := code / 2 % 2 + 1
    let delta : Int := if code % 2 = 0 then code / 4 else -(code / 4 : Nat)
    ⟨first, first + step * count, step, delta⟩ :: ofSteps (first + step * count) rest
  | _ => []

def capitals : Array CaseRun := (CaseRun.ofSteps 0 (rowNumerals [
  0x901b1a00946a6a00aea00c2a7ecaebfeba6ea8f459aec8951099ea8947098ca9946498cb8c7498945098945498ca8,
  0x9464989474a8951498950498cc89514989524a895309aea8955098ca89550b8ca8955098ca9954499ea8955498cc8c,
  0x9089098ca89098ca890990eb90eb89099ea8e0598b419a3ea89011a90e90892425498ca8921598924240b8ca8941598,
  0xc2498c349cec429ec8c918f20f8a30aaa24a8c00a9b74aa0a00a90a00c48c09193ee8b61b8ca8b598cba9011997d009,
  0xb7a00e1a0e92b2ea8f49eebd7ebc5b00d512c5f0600a8f0600e8f06009323917c575009dc0c233d2a7401baa7401d01,
  0x912e928f3375ad7e92fc191dc193fc191fc191dc194bc391fc1b1fc191fc191fc1919c199c5198c594bd3198c5949c1,
  0x99e21959c199f0198b5949900199f7198c5c528f2565c890137598900431f8960d697900a48c9463b1950b461d7b00,
  0xe18ca892373598b563198923635baea8924161989237659892417598924171a8cb8c9199243759e1e919ed8cf4516a6,
  0xea495ea10eecb6e939ea8c240219ced8ca8d12241b9ec91ea8d1242198d1247598d1245598d1240598d12421a8,
  0xd1211198d1225198d1212598f2009fea8b0198d1241598c2434199ef8ce9eb58cd3454b1a00a306c7a40a11c3a40a35,
  0x92a34a96a34aea34a9a34b353e2c00d756b7a00d2601b7a00f5241c1a10])).toArray

def lowerChar (c : Char) : Char :=
  let n := c.toNat
  if n < 128 then c.toLower
  else match capitals.find? fun r => r.first ≤ n && n ≤ r.last && (n - r.first) % r.step == 0 with
    | some r => Char.ofNat ((n : Int) + r.delta).toNat
    | none => c

/-- The lower-case form of the capital sigma between the reversed text before it and the text
behind it. -/
def lowerSigma (before behind : List Char) : Char :=
  if startsCased before && !startsCased behind then 'ς' else 'σ'

def lower (cs : List Char) : List Char :=
  go [] cs
where
  /-- `before` is the text that was passed, last character first. -/
  go (before : List Char) : List Char → List Char
    | [] => []
    | c :: cs =>
      let rest := go (c :: before) cs
      if c = 'Σ' then lowerSigma before cs :: rest
      else if c = 'İ' then 'i' :: '\u0307' :: rest
      else lowerChar c :: rest

end SetTop.Text

/-!
Comparing letters without regard to case.

Letters are the same if their lower-case forms are, or if those have a common capital. Of
such lower-case letters one stands for all.
-/

namespace SetTop.Text

def kindred : List (Nat × Nat) := [
    (305, 105), (383, 115), (953, 837), (956, 181), (963, 962), (976, 946), (977, 952), (981, 966),
    (982, 960), (1008, 954), (1009, 961), (1013, 949), (7296, 1074), (7297, 1076), (7298, 1086),
    (7299, 1089), (7300, 1090), (7301, 1090), (7302, 1098), (7303, 1123), (7835, 7777), (8126, 837),
    (8147, 912), (8163, 944), (42571, 7304), (64262, 64261)]

def lowerLetter (c : Char) : Char := if c = 'İ' then 'i' else lowerChar c

def foldLetter (c : Char) : Char :=
  let low := lowerLetter c
  match kindred.lookup low.toNat with
  | some n => Char.ofNat n
  | none => low

def capitalsOf (n : Nat) : List Nat :=
  let found := (capitals.toList.filterMap fun r =>
    let m := ((n : Int) - r.delta).toNat
    if r.first ≤ m && m ≤ r.last && (m - r.first) % r.step == 0 then some m else none)
  if n = 'i'.toNat then 'İ'.toNat :: found else found

def variants (c : Char) : List Nat :=
  let key := (foldLetter c).toNat
  let lows := key :: (kindred.filter (·.2 == key)).map (·.1)
  lows.flatMap fun n => n :: capitalsOf n

end SetTop.Text
