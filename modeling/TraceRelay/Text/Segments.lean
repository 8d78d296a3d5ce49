/-!
# Cutting a list after each terminator

A segment runs up to and including the next terminator; what follows the last terminator is a
segment too unless it is empty. Nothing is lost: the segments joined are the list.
-/

namespace TraceRelay.Text

variable {α : Type}

/-- The segments of a list, each with its terminator. -/
def segments (isEnd : α → Bool) : List α → List (List α)
  | [] => []
  | x :: xs =>
    if isEnd x then [x] :: segments isEnd xs
    else
      match segments isEnd xs with
      | [] => [[x]]
      | s :: ss => (x :: s) :: ss

end TraceRelay.Text
