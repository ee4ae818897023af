/-
# Paths

A path is a text taken as segments with `/` between them. The empty text is
one empty segment, so every text has segments, and joining them gives it
back; segments without `/` are read back from the path they make.

Key definitions: `Text.segments`, `Text.path`, `Text.IsSegment`.
Key theorems: `Text.path_segments`, `Text.segments_path`.
-/
import VmResource.Text

namespace VmResource
namespace Text

/-- The segments of a path. -/
def segments (t : Text) : List Text := (t.codes.splitOn (.char '/')).map ofCodes

/-- The path of these segments. -/
def path (segs : List Text) : Text := ofCodes ([.char '/'].intercalate (segs.map codes))

/-- A text without `/` can stand as one segment of a path. -/
def IsSegment (t : Text) : Prop := .char '/' ∉ t.codes

instance (t : Text) : Decidable (IsSegment t) := inferInstanceAs (Decidable (.char '/' ∉ t.codes))

theorem segments_ne_nil (t : Text) : segments t ≠ [] := by
  simp [segments, List.splitOn_ne_nil]

theorem codes_path (segs : List Text) :
    (path segs).codes = [.char '/'].intercalate (segs.map codes) := by
  rw [path, codes_ofCodes]

/-- The code points of a text are those of its segments, with `/` between
them. -/
theorem codes_segments (t : Text) : (segments t).map codes = t.codes.splitOn (.char '/') := by
  simp [segments, Function.comp_def]

/-- Joining the segments of a text gives the text. -/
theorem path_segments (t : Text) : path (segments t) = t := by
  rw [← codes_inj, codes_path, codes_segments, List.intercalate_splitOn]

/-- Segments without `/` are read back from their path. -/
theorem segments_path {segs : List Text} (hne : segs ≠ []) (h : ∀ s ∈ segs, IsSegment s) :
    segments (path segs) = segs := by
  rw [segments, codes_path,
    List.splitOn_intercalate _ (by simpa [IsSegment] using h) (by simpa using hne)]
  simp [Function.comp_def]

end Text
end VmResource
