import SourceMetrics.Proofs.Text.Rows
import SourceMetrics.Proofs.Text.Trim
import SourceMetrics.Python.Misplaced

/-!
# What a message quotes

A message on text that does not belong where it stands quotes the first line of it on which there is
something to be seen. The line is trimmed, and cut behind its first characters if it is long. So a
message is always one line, and what it quotes is some characters in a row of the source, whole ones
also where the cut is between characters of several bytes. A text of blanks has nothing to quote.

Main results:

* `firstLine?_eq_some_iff`, `firstLine?_eq_none_iff` — which line is quoted.
* `message_quotes_first_filled_line` — the message about a node, for every node over every text.
-/

namespace SourceMetrics

/-! ## The text of a node -/

/-- A text that is read from some bytes is written as these. -/
theorem toUTF8_eq_of_fromUTF8? {bytes : ByteArray} {text : String}
    (h : String.fromUTF8? bytes = some text) : text.toUTF8 = bytes := by
  unfold String.fromUTF8? at h
  split at h
  · cases h
    rfl
  · cases h

/-- The text of a node has the bytes of its span, if there is anything in it. -/
theorem SyntaxTree.toUTF8_text {t : SyntaxTree} {node : Tree} (h : t.text node ≠ "") :
    (t.text node).toUTF8.data = t.bytes.extract node.start.byte node.stop.byte := by
  unfold SyntaxTree.text at h ⊢
  cases hread : String.fromUTF8? ⟨t.bytes.extract node.start.byte node.stop.byte⟩ with
  | none =>
    rw [hread] at h
    exact absurd rfl h
  | some text => rw [Option.getD_some, toUTF8_eq_of_fromUTF8? hread]

namespace Python

open Text

/-! ## The line that is quoted -/

/-- The first line of a text that is not blank, without the blanks around it. -/
def FirstFilled (text core : List Char) : Prop :=
  ∃ before line after, lines text = before ++ line :: after ∧
    (∀ l ∈ before, allBlank l = true) ∧ Trimmed line core

variable {text core : List Char}

/-- No line is quoted exactly if all lines are blank. -/
theorem firstLine?_eq_none_iff : firstLine? text = none ↔ ∀ l ∈ lines text, allBlank l = true := by
  rw [firstLine?, List.find?_eq_none, List.forall_mem_map]
  refine forall₂_congr fun l _ => ?_
  rw [← trim_eq_nil_iff, Bool.not_eq_true, Bool.not_eq_false', List.isEmpty_iff]

/-- The line that is quoted is the first one that is not blank. -/
theorem firstLine?_eq_some_iff : firstLine? text = some core ↔ FirstFilled text core := by
  -- the search is among the trimmed lines, and trimming leaves nothing exactly of the blank ones
  have hfilled : ∀ l, (!(trim l).isEmpty) = true ↔ trim l ≠ [] := by simp
  have hblank : ∀ l, (!!(trim l).isEmpty) = true ↔ allBlank l = true := by
    simp [trim_eq_nil_iff]
  rw [firstLine?, List.find?_eq_some_iff_append]
  constructor
  · rintro ⟨hcore, as, bs, hsplit, has⟩
    obtain ⟨before, rest, hlines, rfl, hrest⟩ := List.map_eq_append_iff.mp hsplit
    obtain ⟨line, after, rfl, rfl, -⟩ := List.map_eq_cons_iff.mp hrest
    rw [List.forall_mem_map] at has
    exact ⟨before, line, after, hlines, fun l hl => (hblank l).mp (has l hl),
      trimmed_iff.mpr ⟨rfl, (hfilled line).mp hcore⟩⟩
  · rintro ⟨before, line, after, hlines, hbefore, hline⟩
    obtain ⟨rfl, hne⟩ := trimmed_iff.mp hline
    refine ⟨(hfilled line).mpr hne, before.map trim, after.map trim, ?_, ?_⟩
    · rw [hlines, List.map_append, List.map_cons]
    · rw [List.forall_mem_map]
      exact fun l hl => (hblank l).mpr (hbefore l hl)

namespace FirstFilled

/-- The line that is quoted is a line of the text, trimmed. -/
theorem exists_mem_lines (h : FirstFilled text core) : ∃ line ∈ lines text, Trimmed line core := by
  obtain ⟨before, line, after, hlines, -, hline⟩ := h
  exact ⟨line, by rw [hlines]; exact List.mem_append_cons_self, hline⟩

/-- Something of it is quoted. -/
theorem ne_nil (h : FirstFilled text core) : core ≠ [] := by
  obtain ⟨line, -, hline⟩ := h.exists_mem_lines
  exact hline.ne_nil

/-- The quoted line stands in the text as it is. -/
theorem isInfix (h : FirstFilled text core) : core <:+: text := by
  obtain ⟨line, hmem, hline⟩ := h.exists_mem_lines
  exact hline.isInfix.trans (isInfix_of_mem_lines hmem)

/-- It is one line. -/
theorem newline_not_mem (h : FirstFilled text core) : '\n' ∉ core := by
  obtain ⟨line, hmem, hline⟩ := h.exists_mem_lines
  exact fun hfeed => newline_not_mem_of_mem_lines hmem (hline.isInfix.subset hfeed)

end FirstFilled

/-! ## The quotation -/

/-- A message quotes a line: the first 20 characters of it, or all there are, and dots if there are
more. -/
structure Quotes (message : String) (core quoted : List Char) : Prop where
  message_eq : message = "invalid syntax: unexpected `" ++ String.ofList quoted ++ "`"
  cut : quoted = core.take (min 20 core.length) ++ if 20 < core.length then ['.', '.', '.'] else []
  first : ∃ c ∈ quoted.head?, isBlank c = false
  length_pos : 1 ≤ quoted.length
  length_le : quoted.length ≤ 23

/-- Some characters stand in some bytes, whole ones among whole ones. -/
def Spells (bytes : List UInt8) (part : List Char) : Prop :=
  ∃ lead trail : List Char, bytes = lead.flatMap String.utf8EncodeChar ++
    part.flatMap String.utf8EncodeChar ++ trail.flatMap String.utf8EncodeChar

/-- An excerpt is the start of a line, with dots behind it if the line is longer. -/
theorem excerpt_eq (core : List Char) : excerpt core =
    core.take (min 20 core.length) ++ if 20 < core.length then ['.', '.', '.'] else [] := by
  rw [excerpt, List.take_eq_take_min]
  rfl

/-- An excerpt has twenty characters of the line at most, and the dots. -/
theorem length_excerpt (core : List Char) :
    (excerpt core).length = min 20 core.length + if 20 < core.length then 3 else 0 := by
  rw [excerpt_eq, List.length_append, List.length_take, Nat.min_assoc, Nat.min_self,
    apply_ite List.length]
  rfl

/-- A message about a line that is not blank quotes it. -/
theorem FirstFilled.quotes (h : FirstFilled text core) :
    Quotes (Complaint.unexpected (some core)).message core (excerpt core) := by
  obtain ⟨line, -, hline⟩ := h.exists_mem_lines
  obtain ⟨c, hc, hfirst⟩ := hline.first
  obtain ⟨rest, rfl⟩ := List.head?_eq_some_iff.mp hc
  have hlength := length_excerpt (c :: rest)
  rw [List.length_cons] at hlength
  refine ⟨rfl, excerpt_eq _, ⟨c, rfl, hfirst⟩, ?_, ?_⟩
  · rw [hlength]
    omega
  · rw [hlength]
    split <;> omega

/-- Only a message without a quotation is this short. -/
theorem Quotes.message_ne {message : String} {quoted : List Char} (h : Quotes message core quoted) :
    message ≠ "invalid syntax" := by
  intro hmessage
  have hlength := congrArg String.length (h.message_eq.symm.trans hmessage)
  rw [String.length_append, String.length_append] at hlength
  have hfixed : "invalid syntax: unexpected `".length = 28 ∧ "invalid syntax".length = 14 := by
    decide
  omega

/-- A message that quotes a line is one line. -/
theorem FirstFilled.newline_not_mem_message (h : FirstFilled text core) :
    '\n' ∉ (Complaint.unexpected (some core)).message.toList := by
  have hexcerpt : '\n' ∉ excerpt core := by
    rw [excerpt, List.mem_append, not_or]
    refine ⟨fun hfeed => h.newline_not_mem (List.mem_of_mem_take hfeed), ?_⟩
    split <;> decide
  rw [h.quotes.message_eq]
  simp only [String.toList_append, String.toList_ofList, List.mem_append, not_or]
  exact ⟨⟨by decide, hexcerpt⟩, by decide⟩

/-- What is shown of a line of a node is spelled in the bytes of the node. -/
theorem FirstFilled.spells {t : SyntaxTree} {node : Tree}
    (h : FirstFilled (t.text node).toList core) (n : Nat) :
    Spells (t.bytes.extract node.start.byte node.stop.byte).toList (core.take n) := by
  obtain ⟨lead, trail, htext⟩ := (List.take_prefix n core).isInfix.trans h.isInfix
  -- a span that is no text has an empty one, in which there is no such line
  have hne : t.text node ≠ "" := by
    intro hempty
    have hcore := h.isInfix
    rw [hempty, String.toList_empty, List.infix_nil] at hcore
    exact h.ne_nil hcore
  refine ⟨lead, trail, ?_⟩
  rw [← SyntaxTree.toUTF8_text hne, toList_data_toUTF8, ← htext, List.flatMap_append,
    List.flatMap_append]

/-- **A message about a node is one line and quotes the first line of its text that is not blank.**
It starts there with a character that is to be seen, shows no more than 20 characters, all of them
whole, and has dots behind them exactly if the line goes on. Only where all is blank there is
nothing to quote. -/
theorem message_quotes_first_filled_line (t : SyntaxTree) (node : Tree) :
    let text := (t.text node).toList
    let message := (unexpectedNode t node).message
    '\n' ∉ message.toList ∧
    (message = "invalid syntax" ↔ ∀ l ∈ lines text, ∀ c ∈ l, isBlank c = true) ∧
    ((∃ l ∈ lines text, ∃ c ∈ l, isBlank c = false) →
      ∃ core quoted, FirstFilled text core ∧ Quotes message core quoted ∧
        Spells (t.bytes.extract node.start.byte node.stop.byte).toList
          (core.take (min 20 core.length))) := by
  intro text message
  have hblank : (∀ l ∈ lines text, ∀ c ∈ l, isBlank c = true) ↔ firstLine? text = none := by
    simp only [firstLine?_eq_none_iff, allBlank, List.all_eq_true]
  have hmessage : message = (Complaint.unexpected (firstLine? text)).message := rfl
  cases hline : firstLine? text with
  -- there is a line to quote, or all of them are blank
  | none =>
    rw [hline] at hmessage
    have hall := hblank.mpr hline
    refine ⟨?_, iff_of_true hmessage hall, ?_⟩
    · rw [hmessage]
      decide
    · rintro ⟨l, hl, c, hc, hfilled⟩
      rw [hall l hl c hc] at hfilled
      cases hfilled
  | some core =>
    have hfirst := firstLine?_eq_some_iff.mp hline
    rw [hblank, hmessage, hline]
    have hsome : some core ≠ none := Option.some_ne_none core
    exact ⟨hfirst.newline_not_mem_message, iff_of_false hfirst.quotes.message_ne hsome,
      fun _ => ⟨core, _, hfirst, hfirst.quotes, hfirst.spells _⟩⟩

/-- A text that does not belong where it stands, with two blank lines before anything else. The cut
is between two characters of two bytes. -/
def longLine : SyntaxTree :=
  .ofText (.node ⟨"ERROR", true, true, false, true, true, ⟨0, 0, 0⟩, ⟨52, 4, 0⟩⟩ [])
    "\r\n\u3000\n\t print ééééééééééééééé, x \r\ny\n"

/-- The message shows 20 characters of the line. -/
theorem message_longLine :
    (∃ l ∈ lines (longLine.text longLine.root).toList, ∃ c ∈ l, isBlank c = false) ∧
      (unexpectedNode longLine longLine.root).message =
        "invalid syntax: unexpected `print éééééééééééééé...`" := by
  have hfilled : ∃ l ∈ lines (longLine.text longLine.root).toList, ∃ c ∈ l, isBlank c = false :=
    ⟨"\t print ééééééééééééééé, x \r".toList, by decide, 'p', by decide, rfl⟩
  have hline : firstLine? (longLine.text longLine.root).toList =
      some "print ééééééééééééééé, x".toList := by decide
  obtain ⟨-, -, hquotes⟩ := message_quotes_first_filled_line longLine longLine.root
  obtain ⟨core, quoted, hfirst, hquoted, -⟩ := hquotes hfilled
  -- there is only one first line
  have hcore := firstLine?_eq_some_iff.mpr hfirst
  rw [hline, Option.some.injEq] at hcore
  refine ⟨hfilled, ?_⟩
  rw [hquoted.message_eq, hquoted.cut, ← hcore]
  decide

end Python

end SourceMetrics
