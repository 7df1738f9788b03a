import DebugBridge.Proofs.Traffic.Lines
import DebugBridge.Traffic.Log
import Mathlib.Logic.Relation

/-!
# Reading traffic logs

A log that is text as a whole is read, and gives the entries of those lines that are entries on
their own; so what was recorded is read back, also when lines that are no entries have been put
between. One line that is no text spoils the log.
-/

namespace DebugBridge.Traffic

open Text (bytes pieces)

/-! ## Lines of a log -/

theorem lines_append (s t : Bytes) : lines (s ++ 10 :: t) = lines s ++ lines t :=
  Text.pieces_append_separator 10 s t

theorem lines_of_oneLine {line : String} (oneLine : '\n' ∉ line.toList) :
    lines (bytes line) = [bytes line] :=
  Text.pieces_of_not_mem (Text.newline_not_mem_bytes oneLine)

theorem bytes_line (line rest : String) : bytes (line ++ "\n" ++ rest) =
    bytes line ++ 10 :: bytes rest := by
  rw [Text.bytes_append, Text.bytes_append, List.append_assoc]
  rfl

/-- Lines joined by line ends, in bytes. -/
theorem bytes_joined (parts : List (List Char)) :
    bytes (String.ofList (['\n'].intercalate parts)) =
      [10].intercalate (parts.map fun part => bytes (String.ofList part)) := by
  induction parts with
  | nil => rfl
  | cons part parts ih =>
    cases parts with
    | nil => simp
    | cons next parts =>
      simp only [List.map_cons] at ih
      simp only [List.map_cons, List.intercalate_cons_cons, String.ofList_append,
        Text.bytes_append, ih]
      rfl

/-- The lines of a text in bytes are the bytes of its lines. -/
theorem lines_bytes (s : String) : lines (bytes s) =
    (pieces '\n' s.toList).map fun line => bytes (String.ofList line) := by
  have joined : bytes s = [10].intercalate
      ((pieces '\n' s.toList).map fun line => bytes (String.ofList line)) := by
    rw [← bytes_joined, Text.intercalate_pieces, String.ofList_toList]
  rw [lines, joined, Text.pieces_intercalate]
  · simpa using Text.pieces_ne_nil '\n' s.toList
  · intro line mem
    obtain ⟨part, among, rfl⟩ := List.mem_map.mp mem
    refine Text.newline_not_mem_bytes ?_
    rw [String.toList_ofList]
    exact Text.not_mem_of_mem_pieces among

/-- A log is text as a whole exactly if each of its lines is. -/
theorem exists_text_iff {content : Bytes} :
    (∃ texts : List String, lines content = texts.map bytes) ↔ ∃ s, content = bytes s := by
  constructor
  · rintro ⟨texts, split⟩
    refine ⟨String.ofList (['\n'].intercalate (texts.map String.toList)), ?_⟩
    rw [bytes_joined, List.map_map, ← Text.intercalate_pieces 10 content]
    simp only [lines] at split
    simp [split, Function.comp_def]
  · rintro ⟨s, rfl⟩
    exact ⟨(pieces '\n' s.toList).map String.ofList, by simp [lines_bytes]⟩

/-! ## Entries of a log -/

/-- The entry that a line is on its own, if it is one. -/
def Entry.ofBytes? (line : Bytes) : Option Entry := (Text.ofBytes? line).bind Entry.ofLine?

theorem Entry.ofBytes?_bytes (line : String) :
    Entry.ofBytes? (bytes line) = Entry.ofLine? line := by
  rw [Entry.ofBytes?, Text.ofBytes?_bytes, Option.bind_some]

/-- The entries of the lines that are entries on their own. -/
def wellFormed (content : Bytes) : List Entry := (lines content).filterMap Entry.ofBytes?

theorem wellFormed_append (s t : Bytes) :
    wellFormed (s ++ 10 :: t) = wellFormed s ++ wellFormed t := by
  rw [wellFormed, lines_append, List.filterMap_append, wellFormed, wellFormed]

theorem wellFormed_of_oneLine {line : String} (oneLine : '\n' ∉ line.toList) :
    wellFormed (bytes line) = (Entry.ofLine? line).toList := by
  rw [wellFormed, lines_of_oneLine oneLine, List.filterMap_cons, Entry.ofBytes?_bytes]
  cases Entry.ofLine? line <;> rfl

theorem mapM_ofBytes?_eq_some_iff {ls : List Bytes} {texts : List String} :
    ls.mapM Text.ofBytes? = some texts ↔ ls = texts.map bytes := by
  induction ls generalizing texts with
  | nil => cases texts <;> simp
  | cons line ls ih =>
    cases texts with
    | nil => simp [Option.bind_eq_some_iff]
    | cons text texts => simp [Option.bind_eq_some_iff, Text.ofBytes?_eq_some_iff, ih]

theorem mapM_ofBytes?_eq_none_iff {ls : List Bytes} :
    ls.mapM Text.ofBytes? = none ↔ ∃ line ∈ ls, Text.ofBytes? line = none := by
  induction ls with
  | nil => simp
  | cons line ls ih =>
    simp only [List.mapM_cons, List.mem_cons, exists_eq_or_imp, ← ih]
    cases Text.ofBytes? line with
    | none => simp
    | some text => cases ls.mapM Text.ofBytes? <;> simp

/-- A log is read exactly if it is text, and gives the entries of its well-formed lines. -/
theorem entries_eq_ok_iff {content : Bytes} {es : List Entry} :
    entries content = .ok es ↔ (∃ s, content = bytes s) ∧ es = wellFormed content := by
  rw [← exists_text_iff, entries]
  cases read : (lines content).mapM Text.ofBytes? with
  | none =>
    have spoilt : ¬ ∃ texts : List String, lines content = texts.map bytes := by
      rintro ⟨texts, split⟩
      rw [mapM_ofBytes?_eq_some_iff.mpr split] at read
      cases read
    simp [spoilt]
  | some texts =>
    have split := mapM_ofBytes?_eq_some_iff.mp read
    have found : wellFormed content = texts.filterMap Entry.ofLine? := by
      rw [wellFormed, split, List.filterMap_map]
      exact List.filterMap_congr fun text _ => Entry.ofBytes?_bytes text
    simp only [found, Except.ok.injEq]
    exact ⟨fun same => ⟨⟨texts, split⟩, same.symm⟩, fun read => read.2.symm⟩

theorem entries_bytes (s : String) : entries (bytes s) = .ok (wellFormed (bytes s)) :=
  entries_eq_ok_iff.mpr ⟨⟨s, rfl⟩, rfl⟩

/-- One line that is no text spoils the log. -/
theorem entries_eq_error_iff {content : Bytes} :
    entries content = .error .notText ↔ ∃ line ∈ lines content, Text.ofBytes? line = none := by
  rw [← mapM_ofBytes?_eq_none_iff, entries]
  cases (lines content).mapM Text.ofBytes? with
  | none => simp
  | some texts => simp

/-- A log is read exactly if it is text as a whole. Then it gives, in order, the entries of the
lines that are entries on their own; else some line is no text, and nothing is read. A carriage
return in front of a line end is of no consequence. -/
theorem reads_text_only (content : Bytes) :
    (∀ es, entries content = .ok es ↔ (∃ s, content = bytes s) ∧ es = wellFormed content) ∧
      (entries content = .error .notText ↔
        ∃ line ∈ lines content, Text.ofBytes? line = none) ∧
      ∀ line, Entry.ofLine? (line ++ "\r") = Entry.ofLine? line :=
  ⟨fun _ => entries_eq_ok_iff, entries_eq_error_iff, Entry.ofLine?_carriageReturn⟩

/-- A record that was cut inside a character hides the entries in front of it and behind it. -/
theorem cut_record_spoils_log :
    let first : Entry := ⟨"inbound", 1, "x"⟩
    let last : Entry := ⟨"outbound", 3, "z"⟩
    let cut : Bytes :=
      bytes "\x7b\"direction\":\"inbound\",\"timestamp_ms\":2,\"payload\":\"" ++ [0xC3]
    let content := bytes first.toLine ++ 10 :: (cut ++ 10 :: bytes last.toLine)
    wellFormed content = [first, last] ∧ entries content = .error .notText ∧
      ¬ ∀ content, entries content = .ok (wellFormed content) := by
  intro first last cut content
  have oneLine : 10 ∉ cut := by decide
  have spoilt : Text.ofBytes? cut = none := by decide +kernel
  have alone : lines cut = [cut] := Text.pieces_of_not_mem oneLine
  have found : wellFormed content = [first, last] := by
    rw [wellFormed_append, wellFormed_append, wellFormed_of_oneLine first.newline_not_mem_toLine,
      wellFormed_of_oneLine last.newline_not_mem_toLine, first.ofLine?_toLine,
      last.ofLine?_toLine, wellFormed, alone]
    simp [Entry.ofBytes?, spoilt]
  have error : entries content = .error .notText := by
    refine entries_eq_error_iff.mpr ⟨cut, ?_, spoilt⟩
    simp [content, lines_append, alone]
  refine ⟨found, error, fun all => ?_⟩
  rw [all content] at error
  cases error

/-! ## Recorded entries -/

/-- A line that is no entry: one of blanks, or any other that cannot be read as one. -/
structure IsForeign (line : String) : Prop where
  oneLine : '\n' ∉ line.toList
  unread : (∀ c ∈ line.toList, Text.isBlank c) ∨ Entry.ofLine? line = none

theorem IsForeign.wellFormed_eq {line : String} (foreign : IsForeign line) :
    wellFormed (bytes line) = [] := by
  have none : Entry.ofLine? line = none := foreign.unread.elim Entry.ofLine?_of_blank id
  rw [wellFormed_of_oneLine foreign.oneLine, none]
  rfl

/-- What a recorder without bounds has written. -/
theorem text_recordAll (text : String) (es : List Entry) :
    (Recorder.recordAll ⟨text, none⟩ es).text =
      text ++ String.join (es.map fun e => e.toLine ++ "\n") := by
  induction es generalizing text with
  | nil => simp [Recorder.recordAll]
  | cons e es ih =>
    refine (ih _).trans ?_
    simp [String.append_assoc]

theorem wellFormed_recorded (es : List Entry) :
    wellFormed (bytes (Recorder.recordAll (.ofRoom none) es).text) = es := by
  rw [Recorder.ofRoom, text_recordAll, String.empty_append]
  induction es with
  | nil => exact IsForeign.wellFormed_eq ⟨by simp, .inl (by simp)⟩
  | cons e es ih =>
    rw [List.map_cons, String.join_cons, bytes_line, wellFormed_append, ih,
      wellFormed_of_oneLine e.newline_not_mem_toLine, e.ofLine?_toLine]
    rfl

/-- A foreign line is put into a log: in front of all lines, or behind the end of one. -/
inductive Inserts : String → String → Prop
  | first {line : String} (log : String) (foreign : IsForeign line) :
      Inserts log (line ++ "\n" ++ log)
  | behind {line : String} (front back : String) (foreign : IsForeign line) :
      Inserts (front ++ "\n" ++ back) (front ++ "\n" ++ (line ++ "\n" ++ back))

theorem Inserts.wellFormed_eq {log padded : String} (inserts : Inserts log padded) :
    wellFormed (bytes padded) = wellFormed (bytes log) := by
  cases inserts with
  | first log foreign => rw [bytes_line, wellFormed_append, foreign.wellFormed_eq, List.nil_append]
  | behind front back foreign =>
    rw [bytes_line, bytes_line, bytes_line, wellFormed_append, wellFormed_append,
      wellFormed_append, foreign.wellFormed_eq, List.nil_append]

/-- What has been recorded is read back, in order, whatever foreign lines have been put between. -/
theorem recorded_entries_read_back (records : List (Passage × UInt64)) {log : String}
    (inserted : Relation.ReflTransGen Inserts
      (Recorder.recordAll (.ofRoom none)
        (records.map fun r => Entry.ofPassage r.1 r.2.toNat)).text log) :
    entries (bytes log) = .ok (records.map fun r => ⟨r.1.direction.name, r.2, r.1.payload⟩) := by
  have same : wellFormed (bytes log) = records.map fun r => Entry.ofPassage r.1 r.2.toNat := by
    induction inserted with
    | refl => exact wellFormed_recorded _
    | tail _ inserts ih => rw [inserts.wellFormed_eq, ih]
  rw [entries_bytes, same]
  refine congrArg Except.ok (List.map_congr_left fun r _ => ?_)
  simp [Entry.ofPassage]

/-- A payload of two lines is recorded on one, so a blank line behind it and a line in front that is
no JSON are passed over. -/
theorem payload_of_two_lines_read_back :
    let records : List (Passage × UInt64) :=
      [(⟨.inbound, "one\n\"two\""⟩, 5), (⟨.outbound, ""⟩, 0xFFFFFFFFFFFFFFFF)]
    let first : Entry := ⟨"inbound", 5, "one\n\"two\""⟩
    let second : Entry := ⟨"outbound", 0xFFFFFFFFFFFFFFFF, ""⟩
    let log := "not JSON" ++ "\n" ++
      (first.toLine ++ "\n" ++ (" \t" ++ "\n" ++ (second.toLine ++ "\n")))
    Relation.ReflTransGen Inserts
        (Recorder.recordAll (.ofRoom none)
          (records.map fun r => Entry.ofPassage r.1 r.2.toNat)).text log ∧
      entries (bytes log) = .ok [first, second] := by
  intro records first second log
  have written : (Recorder.recordAll (.ofRoom none)
      (records.map fun r => Entry.ofPassage r.1 r.2.toNat)).text =
      first.toLine ++ "\n" ++ (second.toLine ++ "\n") := by
    rw [Recorder.ofRoom, text_recordAll]
    simp [records, first, second, Entry.ofPassage, Direction.name]
  have blank : IsForeign " \t" := ⟨by decide, .inl (List.all_eq_true.mp rfl)⟩
  have tokens : Json.Token.ofChars? "not JSON".toList = none := by decide
  have unread : Entry.ofLine? "not JSON" = none := by
    rw [Entry.ofLine?, Json.Tree.ofString?, tokens]
    rfl
  have text : IsForeign "not JSON" := ⟨by decide, .inr unread⟩
  have inserted : Relation.ReflTransGen Inserts _ log :=
    (Relation.ReflTransGen.single (.behind first.toLine (second.toLine ++ "\n") blank)).tail
      (.first _ text)
  rw [← written] at inserted
  exact ⟨inserted, recorded_entries_read_back records inserted⟩

end DebugBridge.Traffic
