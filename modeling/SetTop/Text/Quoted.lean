import SetTop.Text.Word

/-!
Quoted text.

Messages show text between quotes: single ones, or double ones when the text
holds a single quote and no double one. The quote itself, the backslash and
characters that do not print are written as escapes. Control characters, separators
other than the space, surrogates, private and unassigned code points do not print.
-/

namespace SetTop.Text

def unprintable : Ranges := .ofSteps [
  0x8b7940c195893139fb908a8a58e168c79e39c8f0fb4bfa0a78b018e19f4994695f49e29a08b59a894cc0909138a428,
  0x919b9a78908aad9929b9dfabb8e9b29c8fbb9a78908b8b8b9a8ebb9caaed8aea291c8928c8a78908b8e9938c8c9a96,
  0xd995e908c8919b9a78908b8e9929b9cecbb8e9a391b8fac8dab8a8babaca95beac8d9ada95a6c968c8b08a19928c8d,
  0xeb8c9a9d993ea78c8b08938e9928c8debdb8d9938b94968c8e48c8fba19b38c8a3ab18928a990aabf8a891d939c93,
  0xf3bb6c4b8a8e8b18a8b09e8a8f9939db79118c5bd08c58a0896c4b078aca9d728d9908a8d9d28d9c28d9908a8d9a08,
  0xf28d99049c1ab3d9279f992018b5a932ea790b190a593968c8b93937993d93d97894d932ed4c90791c0895b95baad3,
  0x9e92d5bb3d94af799028b6994d93d979c0e0916ae08965ff5aa0af5ed4994fd4c90279f9c79f9918a8a8a8c09e68a0,
  0x8979f8a49c892a0b1fe0a0b9b4896ac296c296a15b9230b094a4b4259c18d36cd68aca9f1eb95b190908908908908,
  0x908908908908977c1b3893293b27b195c90089279950cd48937892593e08f1156af090d35a3a71fb14cb8a8ea7f4a,
  0x93df1f907f95d96592b7a917894bc28f090979939950a7b591f9f9f90908908f5b977993da564593b0be2a0403d579,
  0x953c59093ecb38e8a8b8b897697e769e7eab7d3de48a48dbe8a10ba77af9f9f9ca9089094b9958b38a48b8a0997c1,
  0x974ccbd6a931896aad6d7a01b6ae296b5bc590b7cd4cb78c6b97d1a37993dc5bc5bd1fe592958a08908b8948a08908,
  0xb902c7090a79191a7f8d3892904f9a8d58baa9b08911f92d7a48bcc2ab4caf7f1ba59e38bc918c8b69cb93e92e901,
  0xb7d0b9590e7ab69b4cb3ed9390917912e6e494e4ed7f93c45c08d38c9b915d1fd3a5b3c5b5a3b090917bc590f78e94,
  0xb2e93de68a3fd0909418a592a38d5900908a8d8a0894df4c93dd8919b9a78908b8e8939b9c9adac90990aea129358e,
  0xb5911f93a45e79c7c19069293d96a2f3d93e5b49a0bb0a70f594392493919a9918b8b78b9959093905919d7994b2,
  0x911f92494912c06928d689791b6ac19a7897910908b8d5aa8b892f93df8b8c68b8fe93c65b2a66a96e3949634945,
  0x9608e92b05d11394494a060f7209110a06709072ec0893b922893db79f9190791938908a6ca49257934944914bf2e,
  0xa2f7e92b9593771fa327d192a1346d8908b8c44d4ca0dfe15c403954c96a92e939d91137d79b090965f3b6791d09,
  0x913f961a4907a31a59393090b2a0692689108b9a9b9d8958a89089028d9918908b58d8e8aa908d259c459927796e8,
  0xa0a117c0b40908a29908b8eb24d6a97993bbc77c0a0f3caa337908d8b8a08b069a1d0915b93bb9420905913f6b01d8,
  0xb48b8a9a8938d8a8adaba8a8a8c8b8a9a8a8a8a8a8b8a9d8908d8d8a8938a2cc8e8a2e3bc15d5b94593a09a08a08c6,
  0x91a57e7b694d5b92eb95fa319731ca1a96a96593932e95ba9695bf1f93dd1fb79b915d2593979eaea9090b6a94cf91,
  0x93d91f9090a248f0c493a005923341b790072eb379932039596462e0369037a74191514a566664b61d77017]

def isPrintable (c : Char) : Bool := !unprintable.has c.toNat

/-- The digits of `n` in base sixteen, filled up with zeros to the width. -/
def hexDigits (width n : Nat) : List Char :=
  let ds := Nat.toDigits 16 n
  List.replicate (width - ds.length) '0' ++ ds

def escape (quote c : Char) : List Char :=
  if c = quote || c = '\\' then ['\\', c]
  else if c = '\n' then ['\\', 'n']
  else if c = '\r' then ['\\', 'r']
  else if c = '\t' then ['\\', 't']
  else if isPrintable c then [c]
  else if c.toNat < 0x100 then ['\\', 'x'] ++ hexDigits 2 c.toNat
  else if c.toNat < 0x10000 then ['\\', 'u'] ++ hexDigits 4 c.toNat
  else ['\\', 'U'] ++ hexDigits 8 c.toNat

def asciiEscape (c : Char) : List Char :=
  let n := c.toNat
  if n < 0x80 then [c]
  else if n < 0x100 then ['\\', 'x'] ++ hexDigits 2 n
  else if n < 0x10000 then ['\\', 'u'] ++ hexDigits 4 n
  else ['\\', 'U'] ++ hexDigits 8 n

def quoteFor (cs : List Char) : Char :=
  if cs.contains '\'' && !cs.contains '"' then '"' else '\''

def quoted (cs : List Char) : List Char :=
  let q := quoteFor cs
  q :: cs.flatMap (escape q) ++ [q]

end SetTop.Text

namespace SetTop

def quote (s : String) : String := String.ofList (Text.quoted s.toList)

end SetTop
