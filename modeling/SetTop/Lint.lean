import SetTop.Text.PatternSyntax

/-!
Keeping irrelevant warnings out of the output of a checker.
-/

namespace SetTop.Lint

def warnings : List String := [
  "libdc1394 error: Failed to initialize libdc1394",
  "pygobject_register_sinkfunc is deprecated",
  "assertion .G_TYPE_IS_BOXED \\(boxed_type\\). failed",
  "assertion .G_IS_PARAM_SPEC \\(pspec\\). failed",
  "return isinstance\\(object, \\(type, types.ClassType\\)\\)",
  "gsignal.c:.*: parameter 1 of type '<invalid>' for signal \".*\" is not a value type",
  "astroid.* Use gi.require_version",
  "^  __import__\\(m\\)$"]

def isIrrelevant (line : List Char) : Bool :=
  (warnings.filterMap Pattern.ofText?).any fun p => (p.search line).isSome

def relevantLines (text : String) : String :=
  String.ofList ((Text.lines text.toList).filter (!isIrrelevant ·)).flatten

end SetTop.Lint
