import SetTop.Image.Basic
import SetTop.Number.Reading
import SetTop.Number.Single
import SetTop.Scene.Fields

/-!
Pictures by description.

A picture is built up from a plain colour, a gradient or noise, with other pictures pasted on
it and rectangles drawn over them.
-/

namespace SetTop.Scene

structure Canvas where
  height : Nat
  width : Nat
  values : Array Nat

def Canvas.plain (h w : Nat) (colour : List Nat) : Canvas :=
  ⟨h, w, (Array.range (h * w * 3)).map fun n => (colour[n % 3]?).getD 0⟩

def Canvas.noise (h w n : Nat) : Canvas :=
  let (values, _) := (List.range (h * w * 3)).foldl (fun (acc, n) _ =>
    let n := (n * 1103515245 + 12345) % 2147483648
    (acc.push (n / 65536 % 256), n)) (#[], n)
  ⟨h, w, values⟩

def Canvas.set (c : Canvas) (y x k v : Nat) : Canvas :=
  { c with values := c.values.setIfInBounds ((y * c.width + x) * 3 + k) v }

def byteOf (j : Json) : Nat := (int j % 256).toNat

def clip (n : Int) (limit : Nat) : Nat := min n.toNat limit

/-- Builds a picture; `fuel` bounds how deep pictures are pasted into each other. -/
def build (names : List (String × Json)) : Nat → Json → Image
  | 0, _ => ⟨0, 0, some 3, #[], .byte⟩
  | fuel + 1, .text name => build names fuel ((names.lookup name).getD .null)
  | fuel + 1, j =>
    let w := nat (get j "w")
    let h := nat (get j "h")
    let bg := (items (get j "bg")).map byteOf
    let c := Canvas.plain h w (if bg.isEmpty then [0, 0, 0] else bg)
    let c := match items (get j "grad") with
      | [a, b, d] =>
        let (a, b, d) := (int a, int b, int d)
        { c with values := (Array.range (h * w * 3)).map fun n =>
            let x : Int := Int.ofNat (n / 3 % w)
            let y : Int := Int.ofNat (n / 3 / w)
            ((x * a + y * b + Int.ofNat (n % 3) * d) % 256).toNat }
      | _ => c
    let c := if has j "noise" && !isNull (get j "noise") then Canvas.noise h w (nat (get j "noise")) else c
    let c := (items (get j "paste")).foldl (fun c p =>
      match items p with
      | [x, y, i] =>
        let i := build names fuel i
        let (x, y) := (nat x, nat y)
        (List.range i.height).foldl (fun c r => (List.range i.width).foldl (fun c q =>
          if y + r < c.height && x + q < c.width then
            (List.range 3).foldl (fun c k => c.set (y + r) (x + q) k (i.value r q k)) c
          else c) c) c
      | _ => c) c
    let c := (items (get j "rects")).foldl (fun c p =>
      match items p with
      | [x, y, rw, rh, colour] =>
        let x0 := clip (int x) c.width
        let x1 := clip (int x + int rw) c.width
        let y0 := clip (int y) c.height
        let y1 := clip (int y + int rh) c.height
        let colour := match colour with
          | .list js => js.map byteOf
          | j => [byteOf j, byteOf j, byteOf j]
        (List.range (y1 - y0)).foldl (fun c r => (List.range (x1 - x0)).foldl (fun c q =>
          (List.range 3).foldl (fun c k => c.set (y0 + r) (x0 + q) k ((colour[k]?).getD 0)) c) c) c
      | _ => c) c
    let i : Image :=
      if bool (get j "gray") then
        ⟨h, w, none, (Array.range (h * w)).map fun n => (c.values[n * 3]?).getD 0, .byte⟩
      else ⟨h, w, some 3, c.values, .byte⟩
    match text? (get j "dtype") with
    | some "uint8" => i
    | some other => { i with element := .other other }
    | none => i

def image (names : List (String × Json)) (j : Json) : Image := build names 32 j

def shapeOf : Json → List Nat
  | .list [] => [0]
  | .list (j :: rest) => (rest.length + 1) :: shapeOf j
  | _ => []

def elementOf : Json → Except Fault Nat
  | .number (.int n) =>
    if -(Nat.pow 2 63 : Int) ≤ n ∧ n < (Nat.pow 2 64 : Nat) then .ok (n % 256).toNat
    else failBelow .overflow
  | .number n => .ok (byteOf (.number n))
  | .bool b => .ok (if b then 1 else 0)
  | .text s => match Number.readInt? s with
    | some n => .ok (n % 256).toNat
    | none => failBelow .value
  | _ => failBelow .type

def singleOf : Json → Except Fault Float
  | .number n =>
    match n.toFloat? with
    | some x => .ok (Number.roundToSingle x)
    | none => failBelow .overflow
  | .bool b => .ok (if b then 1.0 else 0.0)
  | .null => .ok (0.0 / 0.0)
  | .text s => match Number.readFloat? s with
    | some n => .ok (Number.roundToSingle n.toFloat)
    | none => failBelow .value
  | _ => failBelow .type

section

variable {α : Type} (element : Json → Except Fault α)

mutual

def elementsOf : List Nat → Json → Except Fault (List α)
  | [], .list _ => failBelow .value
  | [], j => (element j).map fun a => [a]
  | n :: shape, .list js => if js.length = n then itemElements shape js else failBelow .value
  | _ :: _, _ => failBelow .value

def itemElements (shape : List Nat) : List Json → Except Fault (List α)
  | [] => .ok []
  | j :: js => do return (← elementsOf shape j) ++ (← itemElements shape js)

end

end

def byteArray (j : Json) : Except Fault (List Nat × Array Nat) := do
  let shape := shapeOf j
  return (shape, (← elementsOf elementOf shape j).toArray)

def edge? : Json → Except Fault (Option Num)
  | .null => .ok none
  | j => match extended? j with
    | some n => .ok (some n)
    | none => failBelow .type

/-- The region of a description; null stands for none. A missing left or top edge lies before all
others. -/
def region? (j : Json) : Except Fault (Option Region) := do
  match j with
  | .text "ALL" => return some Region.all
  | .list [a, b, c, d] =>
    match Region.make ((← edge? a).getD .negInf) ((← edge? b).getD .negInf) none none (← edge? c)
        (← edge? d) with
    | .ok r => return some r
    | .error e => throw (.failure .value e.message)
  | _ => return none

def regionOr (j : Json) : Except Fault (Option Region) :=
  match j.field? "region" with
  | none => .ok (some Region.all)
  | some r => region? r

end SetTop.Scene
