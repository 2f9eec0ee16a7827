/-!
Elements of marked-up text.

An element has text in front of its first child, and a tail: the text between its own end
and whatever follows it in its parent.
-/

namespace SetTop.Markup

inductive Element
  | mk (tag : String) (attributes : List (String × String)) (text : String)
      (children : List Element) (tail : String)

namespace Element

def tag : Element → String
  | .mk t _ _ _ _ => t

def attributes : Element → List (String × String)
  | .mk _ as _ _ _ => as

def text : Element → String
  | .mk _ _ t _ _ => t

def children : Element → List Element
  | .mk _ _ _ cs _ => cs

def tail : Element → String
  | .mk _ _ _ _ t => t

def attribute? (e : Element) (name : String) : Option String := e.attributes.lookup name

def addTail (e : Element) (s : String) : Element :=
  .mk e.tag e.attributes e.text e.children (e.tail ++ s)

mutual

/-- Every element below, in the order of the document, each in front of its ancestors. -/
def walk (path : List Element) : Element → List (List Element)
  | .mk tag as text cs tail => walkAll (.mk tag as text cs tail :: path) cs

def walkAll (path : List Element) : List Element → List (List Element)
  | [] => []
  | e :: es => (e :: path) :: (walk path e ++ walkAll path es)

end

def descendants (e : Element) : List (List Element) := e.walk []

end Element

end SetTop.Markup
