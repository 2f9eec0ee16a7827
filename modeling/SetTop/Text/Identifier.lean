import SetTop.Text.Word

/-!
Identifiers: names that start with a letter or an underscore and go on with letters, marks,
digits and underscores.

Most word characters may stand in an identifier; the tables hold the others, and what may
stand there without being a word character.
-/

namespace SetTop.Text

def notStarting : Ranges := .ofSteps [
  0xe0919719e8ba92748934691a0791b0791e359196791dd955919679196791bd957949649191e95091951e90a295691,
  0x9048b5919328b591907a3c1591907919320a3a14491f91a791c5591a0192a4691f91a679192791a0791f91a0278cdf,
  0x91b0797d289327f3917a59167b5a5528c6289543ba1391b7fa96c191d096f1541919007da3391c791b0791a791927,
  0x91e2791d0145de2799658a8a8a8a8a8a8a8a2291a059d50d4902ba29d26b2c5bd75919657fb2ed090914ca7da419b,
  0x97bd590190e59b7a914c951fb1fd2ed13de191c47b6a3791d3b961ea07b5a0191f591a219190a3b7491d279196791,
  0xd67919479194793e45a2936919367b4b4491907919027a4c52149192791a0791ae9437a6e2112a3955b0a126e1c501,
  0x91e4791a71690a01919430f2aaab915d4a96970394d34491]

def alsoStarting : Ranges := #[(6277, 6278), (8472, 8472), (8494, 8494)]

def notInside : Ranges := .ofSteps [
  0xa629e8ba92748b172dd71d971aa06eb32ea290e6291a07792a16491c1678cdf91b0797d289327f3917a59167b5a552,
  0x8c6289543ba1391b7fa96c191d096f2561dd2051de2799658a8a8a8a8a8a8a89211d4902ba29d26b2c5ba465fb2ed0,
  0x90914ca7da419b97bd590190e59b7a914c951fb1fd2ed13dd41b6a3791d3b961ea07a3d74a3a5069e57909550a2,
  0x9524a4c5607e9437a6e2112a3955b092517909642f2aaab915d4a96970394]

def alsoInside : Ranges := .ofSteps [
  0xa6789111957b08b74cc12d4a8a9a9a891192e1a4a18946ebdb9abc48b7b293492f390928b1ba90aaacd4af5fd3a7a,
  0xc0e7aaa1ae939b6af18aeb9ba928939b38baf18acd9bac8b79c894af18afaaaaa59a7daaf18aeb9ba90a939b78f4cc,
  0xaab928d1cf08aeaaab909949b6af18aeaaab909949b5bf09aeaaab928939b6a9078dda8afa39f68be95f9438b9094d,
  0x9139b48a8a8d9e2a3a9e92ac3928945a3b0bdaaabecb9693a893b9300a9663bb5ab69b79901b7928d6aa89669c38,
  0x96793d93b34cf291ab4b8e195a97e2ce0a0c79095ab794f195e1a3a31aaa4d8f8bab07f791009a4897494d8c93d08,
  0xa68d701aa168941b79053d9529f27258d91c199219c218c8d8b0cd89249e3a1b3a1968c7fb294d5be095c589049595,
  0x8919d6ae38aab9e9a8d2ce9b55fa9c74618934297a197c9b1ab60892768b438a26cb207aa9ebd1ad8a4699076be049,
  0xa3292e2b973ae696d28b993bd692908f6ac595a19d5895ae19591ba993593f8a4193a6bf09aeb9ba928939beccb01,
  0xa1b08922a3b54eb90b49923a09539494696c0196b66da9bba8a9a16ebec8b591d1eab9189292d797e26faf923a5a95,
  0x973dc8a9aea8903ca9acd34bc5772cf4ea0318ae690b9228949c6254991142d5ba69037ccd91fbeb7ba25ab674e6d,
  0xe1918978a7ca96a521eaa0bea9acc06ed708f6ba741e956eb013666b57]

def startsIdentifier (c : Char) : Bool :=
  (isWordChar c && !notStarting.has c.toNat) || alsoStarting.has c.toNat

def continuesIdentifier (c : Char) : Bool :=
  (isWordChar c && !notInside.has c.toNat) || alsoInside.has c.toNat

def isIdentifier : List Char → Bool
  | [] => false
  | c :: cs => startsIdentifier c && cs.all continuesIdentifier

end SetTop.Text
