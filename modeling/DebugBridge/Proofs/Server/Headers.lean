import DebugBridge.Proofs.Json.Numeral
import DebugBridge.Proofs.Server.Receiving
import DebugBridge.Proofs.Text

/-!
# Messages behind headers

On the host's stream a message stands behind blank lines, the lines of its header and one more
blank line. Such a `Block` is received as its message alone would be, and what comes behind it
stays as it is; so a stream of blocks gives their messages in order (`receipts_of_blocks`).
-/

namespace DebugBridge

namespace Host

/-! ## The lines of a header -/

/-- A line of blanks. -/
structure IsBlankLine (line : String) : Prop where
  oneLine : '\n' ∉ line.toList
  blank : ∀ c ∈ line.toList, Text.isBlank c

/-- How the line that names a length begins. -/
def lengthStart : List Char := "Content-Length:".toList

/-- The length of the message that a line of a header names, if it names one. -/
inductive Names (line : String) : Option Nat → Prop
  /-- Another header has a colon, and names none. -/
  | other (oneLine : '\n' ∉ line.toList) (colon : ':' ∈ line.toList)
      (name : ¬ lengthStart <+: line.toList) : Names line none
  /-- A length stands between blanks, with or without a plus sign. -/
  | length {before sign digits after : List Char} (oneLine : '\n' ∉ line.toList)
      (spelled : line.toList = lengthStart ++ before ++ (sign ++ digits) ++ after)
      (blank : ∀ c ∈ before ++ after, Text.isBlank c) (signed : sign = [] ∨ sign = ['+'])
      (filled : digits ≠ []) (decimal : ∀ c ∈ digits, c.isDigit)
      (small : Json.Number.digitsValue digits < UInt64.size) :
      Names line (some (Json.Number.digitsValue digits))

namespace Reading

theorem endLine_blank {line : String} (blank : IsBlankLine line) (length : Option Nat) :
    endLine (Text.bytes line) length =
      match length with
      | none => .more start
      | some 0 => endBody []
      | some n => .more (body n []) := by
  unfold endLine
  rw [Text.ofBytes?_bytes]
  dsimp only
  rw [Text.trimEnd_of_blank blank.blank]
  rfl

theorem count?_digits {sign digits : List Char} (signed : sign = [] ∨ sign = ['+'])
    (filled : digits ≠ []) (decimal : ∀ c ∈ digits, c.isDigit)
    (small : Json.Number.digitsValue digits < UInt64.size) :
    count? (String.ofList (sign ++ digits)) = some (Json.Number.digitsValue digits) := by
  have bare : digits.isEmpty = false := List.isEmpty_eq_false_iff.mpr filled
  have all : digits.all Char.isDigit := List.all_eq_true.mpr decimal
  have small : (if Json.Number.digitsValue digits < UInt64.size then
      some (Json.Number.digitsValue digits) else none) = some (Json.Number.digitsValue digits) :=
    if_pos small
  unfold count?
  rw [String.toList_ofList]
  rcases signed with rfl | rfl
  · rw [List.nil_append]
    dsimp only
    split
    case h_1 cs => exact absurd (decimal '+' List.mem_cons_self) (by decide)
    case h_2 => simp [bare, all, small]
  · simp [bare, all, small]

theorem splitLine_of_key {key : List Char} (name : ':' ∉ key) (value : List Char) :
    splitLine (String.ofList (key ++ ':' :: value)) =
      some (String.ofList key, String.ofList value) := by
  have all : ∀ c ∈ key, decide (c ≠ ':') = true := fun c among =>
    decide_eq_true fun colon => name (colon ▸ among)
  unfold splitLine
  rw [String.toList_ofList]
  dsimp only
  rw [List.takeWhile_append_of_pos all, List.dropWhile_append_of_pos all]
  simp

/-- A line of a header keeps the length named before it, unless it names one. -/
theorem endLine_of_names {line : String} {named : Option Nat} (names : Names line named)
    (length : Option Nat) :
    endLine (Text.bytes line) length = .more (header [] (named.or length)) := by
  unfold endLine
  rw [Text.ofBytes?_bytes]
  dsimp only
  cases names with
  | other oneLine colon name =>
    obtain ⟨blanks, split, blank⟩ := Text.exists_eq_trimEnd_append line
    have kept : ':' ∈ (Text.trimEnd line).toList := by
      rw [split] at colon
      refine (List.mem_append.mp colon).resolve_right fun among => ?_
      exact absurd (blank ':' among) (by decide)
    obtain ⟨key, value, spelled, first⟩ := List.eq_append_cons_of_mem kept
    have text : Text.trimEnd line = String.ofList (key ++ ':' :: value) := by
      rw [← spelled, String.ofList_toList]
    have other : String.ofList key ≠ lengthKey := by
      intro same
      have same : key = lengthKey.toList := by rw [← same, String.toList_ofList]
      refine name ⟨value ++ blanks, ?_⟩
      rw [split, spelled, same]
      rfl
    rw [Text.isEmpty_of_mem kept, text, splitLine_of_key first]
    simp [other]
  | @length before sign digits after oneLine spelled blank signed filled decimal small =>
    obtain ⟨blankBefore, blankAfter⟩ := List.forall_mem_append.mp blank
    have seen : ∀ c ∈ sign ++ digits, Text.isBlank c = false := by
      refine List.forall_mem_append.mpr ⟨?_, fun c among => ?_⟩
      case refine_2 => exact Text.isBlank_of_isDigit (decimal c among)
      rcases signed with rfl | rfl
      · simp
      · exact List.forall_mem_singleton.mpr rfl
    have there : sign ++ digits ≠ [] := List.append_ne_nil_of_right_ne_nil sign filled
    have text : Text.trimEnd line =
        String.ofList (lengthKey.toList ++ ':' :: (before ++ (sign ++ digits))) := by
      rw [← String.ofList_toList (s := line), spelled, Text.trimEnd_blanks blankAfter seen there]
      congr 1
    have number : count? (Text.trim (String.ofList (before ++ (sign ++ digits)))) = _ :=
      (congrArg count? (Text.trim_blanks blankBefore seen there)).trans
        (count?_digits signed filled decimal small)
    have kept : ':' ∈ (Text.trimEnd line).toList := by
      rw [text, String.toList_ofList]
      exact List.mem_append_right _ List.mem_cons_self
    rw [Text.isEmpty_of_mem kept, text, splitLine_of_key (by decide), String.ofList_toList]
    simp only [Bool.false_eq_true, if_false, if_true, number, Option.some_or]

end Reading

theorem Names.oneLine {line : String} {named : Option Nat} (names : Names line named) :
    '\n' ∉ line.toList := by
  cases names with
  | other oneLine => exact oneLine
  | length oneLine => exact oneLine

/-! ## Symbols of a text -/

/-- The symbols of a text. -/
def Symbol.ofText (s : String) : List Symbol := (Text.bytes s).map .byte

theorem Symbol.ofText_append (s t : String) : ofText (s ++ t) = ofText s ++ ofText t := by
  simp [ofText]

/-- Reads that are interrupted at most give the bytes of their content. -/
theorem Symbol.ofReads_of_interrupted {reads : List Read}
    (passes : ∀ f, Read.fault f ∈ reads → f.kind = .interrupted) :
    ofReads reads = (reads.flatMap Read.content).map .byte := by
  induction reads with
  | nil => rfl
  | cons read reads ih =>
    have others := ih fun f among => passes f (List.mem_cons_of_mem read among)
    rw [ofReads] at others
    rw [ofReads, List.flatMap_cons, List.flatMap_cons, List.map_append, others]
    cases read with
    | bytes content => rfl
    | fault f =>
      rw [ofRead, if_pos (passes f List.mem_cons_self)]
      rfl

namespace Inbox
variable {ending : StreamEnd}

/-- Goes on reading after a step. -/
def resume (ending : StreamEnd) (rest : List Symbol) : Reading.Outcome → Receipt × Inbox
  | .more r => receiveFrom ending r rest
  | .request m => (.request m, ⟨.start, rest, ending⟩)
  | .failed f => (.failed f, ⟨.start, rest, ending⟩)

theorem receiveFrom_cons (r : Reading) (s : Symbol) (rest : List Symbol) :
    receiveFrom ending r (s :: rest) = resume ending rest (r.step s) := by
  rw [receiveFrom]
  cases r.step s <;> rfl

theorem receiveFrom_line {line : Bytes} (oneLine : 10 ∉ line) (begun : Bytes)
    (length : Option Nat) (rest : List Symbol) :
    receiveFrom ending (.header begun length) (line.map .byte ++ .byte 10 :: rest) =
      resume ending rest (Reading.endLine (begun.reverse ++ line) length) := by
  induction line generalizing begun with
  | nil =>
    rw [List.append_nil]
    exact receiveFrom_cons _ _ _
  | cons b line ih =>
    obtain ⟨other, oneLine⟩ := not_or.mp (mt List.mem_cons.mpr oneLine)
    have step : Reading.step (.header begun length) (.byte b) =
        .more (.header (b :: begun) length) :=
      if_neg (Ne.symm other)
    rw [List.map_cons, List.cons_append, receiveFrom_cons, step, resume, ih oneLine,
      List.reverse_cons, List.append_assoc, List.singleton_append]

theorem receiveFrom_textLine {line : String} (oneLine : '\n' ∉ line.toList)
    (length : Option Nat) (rest : List Symbol) :
    receiveFrom ending (.header [] length) (Symbol.ofText (line ++ "\n") ++ rest) =
      resume ending rest (Reading.endLine (Text.bytes line) length) := by
  have split : Symbol.ofText (line ++ "\n") ++ rest =
      (Text.bytes line).map .byte ++ .byte 10 :: rest := by
    rw [Symbol.ofText_append, List.append_assoc]
    rfl
  rw [split, receiveFrom_line (Text.newline_not_mem_bytes oneLine)]
  rfl

theorem receiveFrom_blanks {lines : List String} (blank : ∀ line ∈ lines, IsBlankLine line)
    (rest : List Symbol) :
    receiveFrom ending .start (Symbol.ofText (String.join (lines.map (· ++ "\n"))) ++ rest) =
      receiveFrom ending .start rest := by
  induction lines with
  | nil => rfl
  | cons line lines ih =>
    obtain ⟨first, others⟩ := List.forall_mem_cons.mp blank
    rw [List.map_cons, String.join_cons, Symbol.ofText_append, List.append_assoc, Reading.start,
      receiveFrom_textLine first.oneLine, Reading.endLine_blank first]
    exact ih others

/-- Behind the lines of a header, the last length that was named is known. -/
theorem receiveFrom_lines {lines : List (String × Option Nat)}
    (names : ∀ line ∈ lines, Names line.1 line.2) (length : Option Nat) (rest : List Symbol) :
    receiveFrom ending (.header [] length)
        (Symbol.ofText (String.join (lines.map (·.1 ++ "\n"))) ++ rest) =
      receiveFrom ending (.header [] ((lines.filterMap Prod.snd).getLast?.or length)) rest := by
  induction lines generalizing length with
  | nil => rfl
  | cons line lines ih =>
    obtain ⟨first, others⟩ := List.forall_mem_cons.mp names
    have named : ((line :: lines).filterMap Prod.snd).getLast?.or length =
        (lines.filterMap Prod.snd).getLast?.or (line.2.or length) := by
      cases same : line.2 with
      | none => simp [same]
      | some n =>
        rw [List.filterMap_cons_some same, List.getLast?_cons]
        cases (lines.filterMap Prod.snd).getLast? <;> rfl
    rw [List.map_cons, String.join_cons, Symbol.ofText_append, List.append_assoc,
      receiveFrom_textLine first.oneLine, Reading.endLine_of_names first, resume, ih others, named]

/-- A message is taken by the number of its bytes. -/
theorem receiveFrom_body {content : Bytes} (filled : content ≠ []) (begun : Bytes)
    (rest : List Symbol) :
    receiveFrom ending (.body content.length begun) (content.map .byte ++ rest) =
      resume ending rest (Reading.endBody (begun.reverse ++ content)) := by
  induction content generalizing begun with
  | nil => exact absurd rfl filled
  | cons b content ih =>
    rw [List.map_cons, List.cons_append, receiveFrom_cons, Reading.step]
    cases content with
    | nil => simp
    | cons b' content =>
      rw [if_neg (by simp), resume]
      have later := ih (List.cons_ne_nil b' content) (b :: begun)
      rw [List.reverse_cons, List.append_assoc] at later
      exact later

end Inbox

/-! ## Blocks -/

/-- A message with what stands before it on the stream. -/
structure Block where
  /-- The blank lines before the header. -/
  blanks : List String
  /-- The lines of the header, each with the length that it names, if it does. -/
  lines : List (String × Option Nat)
  /-- The line that ends the header. -/
  finish : String
  body : String
  blank : ∀ line ∈ finish :: blanks, IsBlankLine line
  names : ∀ line ∈ lines, Names line.1 line.2
  /-- The last length that is named is that of the message. -/
  last : (lines.filterMap Prod.snd).getLast? = some (Text.bytes body).length

namespace Block

/-- The block as it stands on the stream. -/
def text (b : Block) : String :=
  String.join (b.blanks.map (· ++ "\n")) ++ String.join (b.lines.map (·.1 ++ "\n")) ++
    (b.finish ++ "\n") ++ b.body

/-- What the message alone is received as. -/
def receipt (b : Block) : Receipt :=
  match RequestMessage.ofText? b.body with
  | some m => .request m
  | none => .failed (.notRequest b.body)

theorem receiveFrom_text (b : Block) (ending : StreamEnd) (rest : List Symbol) :
    Inbox.receiveFrom ending .start (Symbol.ofText b.text ++ rest) =
      (b.receipt, ⟨.start, rest, ending⟩) := by
  obtain ⟨finish, blanks⟩ := List.forall_mem_cons.mp b.blank
  have complete : Inbox.resume ending rest (Reading.endBody (Text.bytes b.body)) =
      (b.receipt, ⟨.start, rest, ending⟩) := by
    rw [Reading.endBody, Text.ofBytes?_bytes, receipt]
    dsimp only
    cases RequestMessage.ofText? b.body <;> rfl
  have header (rest : List Symbol) :
      Inbox.receiveFrom ending .start
          (Symbol.ofText (String.join (b.lines.map (·.1 ++ "\n"))) ++ rest) =
        Inbox.receiveFrom ending (.header [] (some (Text.bytes b.body).length)) rest := by
    have lines : Inbox.receiveFrom ending _ _ = _ := Inbox.receiveFrom_lines b.names none rest
    rw [b.last] at lines
    exact lines
  rw [text, Symbol.ofText_append, Symbol.ofText_append, Symbol.ofText_append, List.append_assoc,
    List.append_assoc, List.append_assoc, Inbox.receiveFrom_blanks blanks, header,
    Inbox.receiveFrom_textLine finish.oneLine, Reading.endLine_blank finish]
  cases content : Text.bytes b.body with
  | nil =>
    rw [content] at complete
    rw [Symbol.ofText, content]
    exact complete
  | cons first others =>
    rw [Symbol.ofText, content, ← complete, content]
    exact Inbox.receiveFrom_body (List.cons_ne_nil first others) [] rest

/-- How the length of a message is written. -/
theorem names_length {n : Nat} (small : n < UInt64.size) :
    Names (lengthKey ++ ": " ++ toString n ++ "\r") (some n) := by
  have spelled : (lengthKey ++ ": " ++ toString n ++ "\r").toList =
      lengthStart ++ [' '] ++ ([] ++ Nat.toDigits 10 n) ++ ['\r'] := by
    have digits : (toString n).toList = Nat.toDigits 10 n := String.toList_ofList
    rw [String.toList_append, String.toList_append, String.toList_append, digits]
    rfl
  have decimal : ∀ c ∈ Nat.toDigits 10 n, c.isDigit := fun c =>
    Json.Number.isDigit_of_mem_toDigits
  have oneLine : '\n' ∉ (lengthKey ++ ": " ++ toString n ++ "\r").toList := by
    rw [spelled]
    intro newline
    rcases List.mem_append.mp newline with front | back
    · rcases List.mem_append.mp front with name | digit
      · exact absurd name (by decide)
      · exact absurd (decimal _ digit) (by decide)
    · exact absurd back (by decide)
  have value := Json.Number.digitsValue_toDigits n
  have names := Names.length oneLine spelled (List.all_eq_true.mp rfl) (.inl rfl)
    Nat.toDigits_ne_nil decimal (by rwa [value])
  rwa [value] at names

/-- A message as it is written. -/
def ofBody (body : String) (small : (Text.bytes body).length < UInt64.size) : Block where
  blanks := []
  lines := [(lengthKey ++ ": " ++ toString (Text.bytes body).length ++ "\r",
    some (Text.bytes body).length)]
  finish := "\r"
  body := body
  blank := by
    simp only [List.mem_singleton, forall_eq]
    exact ⟨by decide, List.all_eq_true.mp rfl⟩
  names := by
    simp only [List.mem_singleton, forall_eq]
    exact names_length small
  last := rfl

theorem text_ofBody (body : String) (small : (Text.bytes body).length < UInt64.size) :
    (ofBody body small).text = framed body := by
  simp [text, ofBody, framed, String.append_assoc]

end Block

namespace Inbox

/-- What so many calls give, one after another. -/
def receipts : Nat → Inbox → List Receipt
  | 0, _ => []
  | calls + 1, i => i.receive.1 :: receipts calls i.receive.2

theorem receipts_closed (calls : Nat) :
    receipts calls ⟨.start, [], .closed⟩ = .replicate calls .closed := by
  induction calls with
  | zero => rfl
  | succ calls ih =>
    rw [receipts, List.replicate_succ, ← ih]
    rfl

theorem receipts_of_blocks (blocks : List Block) (calls : Nat) :
    receipts (blocks.length + calls)
        ⟨.start, blocks.flatMap fun b => Symbol.ofText b.text, .closed⟩ =
      blocks.map Block.receipt ++ .replicate calls .closed := by
  induction blocks with
  | nil =>
    rw [List.length_nil, Nat.zero_add]
    exact receipts_closed calls
  | cons b blocks ih =>
    rw [List.length_cons, Nat.add_right_comm, receipts, receive, List.flatMap_cons,
      b.receiveFrom_text, ih]
    rfl

theorem receipts_of_parsed {blocks : List Block} {requests : List RequestMessage}
    (parsed : blocks.map (fun b => RequestMessage.ofText? b.body) = requests.map some) :
    blocks.map Block.receipt = requests.map .request := by
  induction blocks generalizing requests with
  | nil =>
    obtain rfl := List.map_eq_nil_iff.mp parsed.symm
    rfl
  | cons b blocks ih =>
    cases requests with
    | nil => cases parsed
    | cons m requests =>
      obtain ⟨first, others⟩ := List.cons.inj parsed
      dsimp only at first
      rw [List.map_cons, List.map_cons, ih others, Block.receipt, first]

theorem receiveAll_of_receipts {blocks : List Block} {requests : List RequestMessage}
    (received : blocks.map Block.receipt = requests.map .request) :
    receiveAll ⟨.start, blocks.flatMap fun b => Symbol.ofText b.text, .closed⟩ =
      (requests, .closed) := by
  induction blocks generalizing requests with
  | nil =>
    obtain rfl := List.map_eq_nil_iff.mp received.symm
    rfl
  | cons b blocks ih =>
    cases requests with
    | nil => cases received
    | cons m requests =>
      obtain ⟨first, others⟩ := List.cons.inj received
      have message :
          receive ⟨.start, (b :: blocks).flatMap fun b => Symbol.ofText b.text, .closed⟩ =
            (.request m, ⟨.start, blocks.flatMap fun b => Symbol.ofText b.text, .closed⟩) := by
        rw [receive, List.flatMap_cons, b.receiveFrom_text, first]
      rw [receiveAll_of_request message, ih others]

/-- The requests that stand in blocks on a stream are received as they are on their own, in order,
however the stream is cut, and then its end. Every message as it is written is a block. -/
theorem receive_requests_of_blocks (blocks : List Block) (requests : List RequestMessage)
    (parsed : blocks.map (fun b => RequestMessage.ofText? b.body) = requests.map some)
    (reads : List Read) (passes : ∀ f, Read.fault f ∈ reads → f.kind = .interrupted)
    (content : reads.flatMap Read.content = blocks.flatMap fun b => Text.bytes b.text)
    (calls : Nat) :
    receipts (requests.length + calls) (ofReads reads .closed) =
        requests.map .request ++ .replicate calls .closed ∧
      receiveAll (ofReads reads .closed) = (requests, .closed) ∧
      ∀ body, (Text.bytes body).length < UInt64.size →
        ∃ b : Block, b.body = body ∧ b.text = framed body := by
  have received := receipts_of_parsed parsed
  have pending : ofReads reads .closed =
      ⟨.start, blocks.flatMap fun b => Symbol.ofText b.text, .closed⟩ := by
    rw [ofReads, Symbol.ofReads_of_interrupted passes, content, List.map_flatMap]
    rfl
  refine ⟨?_, ?_, fun body small => ⟨.ofBody body small, rfl, Block.text_ofBody body small⟩⟩
  · have count : requests.length = blocks.length := by
      simpa using (congrArg List.length received).symm
    rw [pending, count, receipts_of_blocks, received]
  · rw [pending, receiveAll_of_receipts received]

/-- A message behind a blank line, with two lengths and another header. -/
def twoLengths : Block where
  blanks := ["\r"]
  lines := [("Content-Length:+7", some 7), ("Content-Type: a", none),
    ("Content-Length: 25\r", some 25)]
  finish := " \r"
  body := "\x7b\"seq\":1,\"command\":\"né\"\x7d"
  blank := by
    simp only [List.forall_mem_cons]
    exact ⟨⟨by decide, List.all_eq_true.mp rfl⟩, ⟨by decide, List.all_eq_true.mp rfl⟩, by simp⟩
  names := by
    simp only [List.forall_mem_cons]
    refine ⟨?_, ?_, ?_, by simp⟩
    · exact @Names.length _ [] ['+'] ['7'] [] (by decide) (by decide) (by simp) (.inr rfl)
        (by decide) (List.all_eq_true.mp rfl) (by decide)
    · exact Names.other (by decide) (by decide) (by decide)
    · exact @Names.length _ [' '] [] ['2', '5'] ['\r'] (by decide) (by decide)
        (List.all_eq_true.mp rfl) (.inl rfl) (by decide) (List.all_eq_true.mp rfl) (by decide)
  last := by decide

theorem receive_requests_of_twoLengths :
    receipts 3 (ofReads
        [.bytes ((Text.bytes twoLengths.text).take 30), .fault ⟨.interrupted, ""⟩,
          .bytes ((Text.bytes twoLengths.text).drop 30)] .closed) =
      [.request ⟨1, "né", .null⟩, .closed, .closed] := by
  have tokens : Json.Token.ofChars? twoLengths.body.toList =
      some [.openObject, .text (some "seq"), .colon, .number (some (.whole 1)), .comma,
        .text (some "command"), .colon, .text (some "né"), .closeObject] := by
    decide
  have parsed : RequestMessage.ofText? twoLengths.body = some ⟨1, "né", .null⟩ := by
    rw [RequestMessage.ofText?, Json.Tree.ofString?, tokens]
    rfl
  exact (receive_requests_of_blocks [twoLengths] [⟨1, "né", .null⟩]
    (congrArg (List.cons · []) parsed) _ (by simp) (by simp [Read.content]) 2).1

end Inbox
end Host
end DebugBridge
