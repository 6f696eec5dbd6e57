import LineGate.Proofs.Document.Blanking
import LineGate.Proofs.Text.Bytes

/-! # Processed texts as bytes

What a gate does to a text can be said of the bytes of the text alone, without its characters
(`Gate.encode_of_outcome`): they are cut at the bytes of the line feeds, each stretch that belongs to a
hidden line is neutralised as bytes, the others stay as they are, and everything is joined again. A
stretch is neutralised by putting the bytes of the marker in front of it, or by a space for each of its
characters, which are counted by the bytes that lead. -/

namespace LineGate

variable {σ : Type}

open Utf8

namespace Style

/-- **Neutralise the bytes of a line**: put those of the marker in front, or put a space in place of
each character but a carriage return at the end. -/
def renderBytes : Style → Bytes → Bytes
  | .comment marker, line => encode marker.toList ++ line
  | .blank, line =>
    if line.getLast? = some 0x0D then List.replicate (charCount line - 1) 0x20 ++ [0x0D]
    else List.replicate (charCount line) 0x20

/-- Spaces are encoded to bytes of spaces. -/
theorem encode_spaces (n : Nat) : encode (spaces n) = List.replicate n 0x20 := by
  induction n with
  | zero => rfl
  | succ n ih =>
    rw [spaces] at ih
    rw [spaces, List.replicate_succ, encode_cons, ih, List.replicate_succ]
    rfl

/-- **A neutralised line is encoded** to the neutralised bytes of the line. -/
theorem encode_render (style : Style) (line : String) :
    encode (style.render line).toList = style.renderBytes (encode line.toList) := by
  cases style with
  | comment marker => simp [render, renderBytes, String.toList_append, encode_append]
  | blank =>
    rw [renderBytes, charCount_encode, toList_blank_render, blankLine]
    by_cases ending : line.toList.getLast? = some '\r'
    · rw [if_pos ending, if_pos ((getLast?_encode _).mpr ending), encode_append, encode_spaces]
      rfl
    · rw [if_neg ending, if_neg fun ends => ending ((getLast?_encode _).mp ends), encode_spaces]

end Style

namespace Document

/-- **The bytes of a text with hidden lines neutralised**: those of each line between two line feeds
are neutralised, if the line is hidden, and stay as they are otherwise. -/
def renderBytes (style : Style) (hidden : List Nat) (bytes : Bytes) : Bytes :=
  [lineFeed].intercalate ((bytes.splitOn lineFeed).zipIdx.map fun (line, i) =>
    if hidden.contains i then style.renderBytes line else line)

/-- Where nothing is hidden, bytes stay as they are. -/
theorem renderBytes_nil (style : Style) (bytes : Bytes) : renderBytes style [] bytes = bytes := by
  have kept : ((bytes.splitOn lineFeed).zipIdx.map fun (line, i) =>
      if ([] : List Nat).contains i then style.renderBytes line else line) =
        bytes.splitOn lineFeed := by
    simp
  rw [renderBytes, kept, List.intercalate_splitOn]

/-- The bytes of the text of some lines. -/
theorem encode_textOf (lines : List String) :
    encode (textOf lines).toList = [lineFeed].intercalate (lines.map fun l => encode l.toList) := by
  rw [toList_textOf, encode_join, List.map_map]
  rfl

/-- **A rendered text is encoded** to the rendered bytes of the text. -/
theorem encode_renderLines (style : Style) (hidden : List Nat) (text : String) :
    encode (textOf (renderLines style hidden (linesOf text))).toList =
      renderBytes style hidden (encode text.toList) := by
  have lines : (encode text.toList).splitOn lineFeed =
      (linesOf text).map fun l => encode l.toList := by
    rw [splitOn_encode, ← map_toList_linesOf, List.map_map]
    rfl
  rw [encode_textOf, renderBytes, lines, renderLines, List.zipIdx_map, List.map_map, List.map_map]
  congr 1
  refine List.map_congr_left fun entry _ => ?_
  obtain ⟨line, i⟩ := entry
  -- Each line is encoded on its own.
  by_cases mem : i ∈ hidden
  · simp [mem, style.encode_render]
  · simp [mem]

end Document

open Document

/-- **The bytes of a processed text**, from the bytes of the text. -/
theorem Gate.encode_of_outcome (g : Gate σ) (file : Option String) (text : String) (state : σ)
    {f : Formatted} (passed : (g.outcome file text state).1 = .ok f) :
    encode f.text.toList = renderBytes g.style f.hidden (encode text.toList) := by
  rw [(g.text_of_outcome file text state passed).1, encode_renderLines]

/-- In a text in which no line opens a block, nothing is hidden. -/
theorem Gate.hidden_of_still {g : Gate σ} {text : String}
    (still : Still g.directive? (linesOf text)) (file : Option String) (state : σ) {f : Formatted}
    (passed : (g.outcome file text state).1 = .ok f) : f.hidden = [] := by
  rw [outcome, Document.format_of_still still] at passed
  rw [← Except.ok.inj passed]

end LineGate
