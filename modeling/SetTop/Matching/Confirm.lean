import SetTop.Matching.Parameters

/-!
The second pass of a search: confirming a candidate.

The window of the picture and the template are compared in grey, place by place. What
differs by more than the threshold is kept, single places are eroded away, and the
candidate is confirmed when nothing is left.
-/

namespace SetTop.Confirm

abbrev Trace := List (String × Image) × Except Fault Bool

def compareGrey (p : MatchParameters) (a b : Image) : Trace :=
  let outcome : Except Fault (Image × Image × Image) := do
    let difference ← Image.absoluteDifference a b
    let limit ← p.confirmLimit
    let passes ← p.passCount
    let thresholded := difference.threshold limit
    return (difference, thresholded, thresholded.erode passes)
  match outcome with
  | .error e => ([], .error e)
  | .ok (difference, thresholded, eroded) =>
    ([("confirm-absdiff", difference), ("confirm-absdiff_threshold", thresholded),
      ("confirm-absdiff_threshold_erode", eroded)], .ok !eroded.hasInk)

def trace (image : Image) (region : Region) (template : Image) (p : MatchParameters) : Trace :=
  if p.confirmMethod == "none" then ([], .ok true)
  else
    let greys : Except Fault (Image × Image × Image) := do
      let window ← image.sliceRegion region
      return (window, ← window.grey, ← template.grey)
    match greys with
    | .error e => ([], .error e)
    | .ok (window, a, b) =>
      let start := [("confirm-source_roi", window), ("confirm-source_roi_gray", a),
        ("confirm-template_gray", b)]
      if p.confirmMethod == "normed-absdiff" then
        match a.normalize, b.normalize with
        | .ok a, .ok b =>
          let (rest, outcome) := compareGrey p a b
          (start ++ [("confirm-source_roi_gray_normalized", a),
            ("confirm-template_gray_normalized", b)] ++ rest, outcome)
        | .error e, _ | _, .error e => (start, .error e)
      else
        let (rest, outcome) := compareGrey p a b
        (start ++ rest, outcome)

end SetTop.Confirm

namespace SetTop

def confirmMatch (image : Image) (region : Region) (template : Image) (p : MatchParameters) :
    Except Fault Bool :=
  (Confirm.trace image region template p).2

end SetTop
