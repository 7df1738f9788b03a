import DebugBridge.Command.Payload
import DebugBridge.Proofs.Command.Fields
import DebugBridge.Proofs.Json.RoundTrip
import DebugBridge.Proofs.Keyed

/-!
# Commands sent and received

A typed command is received as it was sent. A command that is not typed is received again as it
was received the first time, unless reals occur in its arguments: its name and its arguments are
kept, and what was not typed at first is not typed later.
-/

namespace DebugBridge

open Json (Value Object Tree)

namespace Command

/-! ## Names and shapes -/

theorem fields_distinct {f : Form} (mem : f ∈ forms) :
    (f.shape.fields.map Field.key).Nodup := by
  revert f
  decide

theorem nodup_names : (forms.map Form.name).Nodup := by decide

/-- The form of a known name is the one that is looked up. -/
theorem find?_forms {f : Form} (mem : f ∈ forms) :
    forms.find? (fun g => g.name = f.name) = some f :=
  (find?_key_eq_some_iff nodup_names).mpr ⟨mem, rfl⟩

theorem isKnown_make {f : Form} (mem : f ∈ forms) (a : f.Args) : (f.make a).isKnown := by
  revert f
  simp [forms, isKnown]

theorem isKnown_bare {m : String × Command} (mem : m ∈ bare) : m.2.isKnown := by
  revert m
  simp [bare, isKnown]

/-- The arguments of a form give the command that they were written for. -/
theorem ofParts_write {name : String} {α : Type} {shape : Shape α} {make : α → Command}
    (mem : ⟨name, α, shape, make⟩ ∈ forms) (a : α) : ofParts name (shape.write a) = make a := by
  rw [ofParts, find?_forms mem]
  simp [Shape.read?_write (fields_distinct mem)]

/-- A typed command is made again of its parts. -/
theorem ofParts_parts {c : Command} (known : c.isKnown) : ofParts c.parts.1 c.parts.2 = c := by
  cases c with
  | other => cases known
  | getWindowLayout | restartThreads | weakInterrupt | strongInterrupt | getThreads | getStack =>
    rfl
  | _ a =>
    -- The name has to be a literal before it is looked for among the forms.
    simp only [parts]
    refine ofParts_write ?_ a
    simp [forms]

theorem eq_of_getD_eq_other {made : Option Command} {name kept : String} {args keptArgs : Object}
    (typed : ∀ c ∈ made, c.isKnown) (h : made.getD (.other name args) = .other kept keptArgs) :
    kept = name ∧ keptArgs = args := by
  cases made with
  | none => cases h; exact ⟨rfl, rfl⟩
  | some c =>
    have known := typed c rfl
    cases (h : c = .other kept keptArgs)
    cases known

/-- Arguments that are not typed are kept, and so is the name. -/
theorem eq_of_ofParts_eq_other {name kept : String} {args keptArgs : Object}
    (h : ofParts name args = .other kept keptArgs) : kept = name ∧ keptArgs = args := by
  rw [ofParts] at h
  split at h
  · rename_i f found
    refine eq_of_getD_eq_other (fun c made => ?_) h
    obtain ⟨a, _, rfl⟩ := Option.map_eq_some_iff.mp made
    exact isKnown_make (List.mem_of_find?_eq_some found) a
  · refine eq_of_getD_eq_other (fun c found => ?_) h
    obtain ⟨_, _, split, _⟩ := List.lookup_eq_some_iff.mp found
    have mem : (name, c) ∈ bare := by simp [split]
    exact isKnown_bare mem

/-! ## Values -/

/-- The arguments of a typed command are written so that a reader takes them back. -/
theorem writable_args {c : Command} (known : c.isKnown) : (Value.object c.args).Writable 3 := by
  cases c with
  | other => cases known
  | getWindowLayout | restartThreads | weakInterrupt | strongInterrupt | getThreads | getStack =>
    exact .empty
  | _ a =>
    simp only [args, parts]
    exact Shape.writable_write _ a

/-- What a payload holds when it is read. -/
theorem ofString?_payload {c : Command} (writable : (Value.object c.args).Writable 126) :
    Value.ofString? c.payload = some (.array [.text c.name, .object c.args]) := by
  have whole : (Value.array [.text c.name, .object c.args]).Writable Tree.maxDepth :=
    .array (by simp [Value.Writable.text, writable])
  exact Value.ofString?_compact whole.readable whole.integral

/-- A payload starts with a bracket. -/
theorem startsWith_trimStart_payload (c : Command) :
    (Text.trimStart c.payload).startsWith "[" := by
  rw [payload, payloadOf, Value.compact, Text.trimStart, String.startsWith_string_iff]
  have bracket : Text.isBlank '[' = false := rfl
  simp [bracket]

end Command

namespace Message

open Command

/-- A command is received as its name and its arguments say. -/
theorem ofPayload_payload {c : Command} (writable : (Value.object c.args).Writable 126) :
    ofPayload c.payload = .command (ofParts c.name c.args) := by
  rw [ofPayload, if_pos (startsWith_trimStart_payload c), ofString?_payload writable]
  rfl

theorem ofPayload_payload_known {c : Command} (known : c.isKnown) :
    ofPayload c.payload = .command c := by
  rw [ofPayload_payload ((writable_args known).mono (by decide)), name, args, ofParts_parts known]

theorem exists_of_ofPayload {payload : String} {c : Command} (h : ofPayload payload = .command c) :
    ∃ v, Value.ofString? payload = some v ∧ Command.ofValue? v = some c := by
  rw [ofPayload] at h
  split at h
  · split at h
    · rename_i read
      cases h
      exact Option.bind_eq_some_iff.mp read
    · cases h
  · cases h

/-- A payload that holds a command holds a name, and an object or null. -/
theorem exists_of_ofValue? {v : Value} {c : Command} (h : Command.ofValue? v = some c) :
    ∃ name args, c = ofParts name args ∧
      (v = .array [.text name, .object args] ∨ v = .array [.text name, .null] ∧ args = []) := by
  rw [Command.ofValue?.eq_def] at h
  split at h
  · rename_i name args
    cases h
    exact ⟨name, args, rfl, .inl rfl⟩
  · rename_i name
    cases h
    exact ⟨name, [], rfl, .inr ⟨rfl, rfl⟩⟩
  · cases h

/-- The arguments of a command that has been read are readable. -/
theorem readable_args_of_ofPayload {payload name : String} {args : Object}
    (h : ofPayload payload = .command (.other name args)) :
    (Value.object args).Readable 126 ∧ ofParts name args = .other name args := by
  obtain ⟨v, read, decoded⟩ := exists_of_ofPayload h
  obtain ⟨name', args', kept, shape⟩ := exists_of_ofValue? decoded
  obtain ⟨rfl, rfl⟩ := eq_of_ofParts_eq_other kept.symm
  refine ⟨?_, kept.symm⟩
  have readable := Value.readable_of_ofString? read
  rcases shape with rfl | ⟨rfl, rfl⟩
  · cases readable with
    | array items => exact items _ (by simp)
  · exact Value.Writable.empty.readable

theorem ofPayload_payload_other {payload name : String} {args : Object}
    (received : ofPayload payload = .command (.other name args))
    (integral : (Value.object args).Integral) :
    ofPayload (Command.other name args).payload = .command (.other name args) := by
  obtain ⟨readable, kept⟩ := readable_args_of_ofPayload received
  rw [ofPayload_payload (c := .other name args) ⟨readable, integral⟩]
  exact congrArg Message.command kept

/-- A value without reals holds arguments without reals. -/
theorem integral_args_of_ofValue? {v : Value} (integral : v.Integral) {name : String}
    {args : Object} (h : Command.ofValue? v = some (.other name args)) :
    (Value.object args).Integral := by
  obtain ⟨name', args', kept, shape⟩ := exists_of_ofValue? h
  obtain ⟨rfl, rfl⟩ := eq_of_ofParts_eq_other kept.symm
  rcases shape with rfl | ⟨rfl, rfl⟩
  · cases integral with
    | array items => exact items _ (by simp)
  · exact .object (by simp)

/-- A typed command is received as it was sent, and an untyped command without reals, once
received, is received again as the same. So a payload without reals that holds a command holds
the same command when it is written anew, also where the name is known and the arguments do not
fit its shape. -/
theorem received_again :
    (∀ c : Command, c.isKnown → ofPayload c.payload = .command c) ∧
      (∀ payload name args, ofPayload payload = .command (.other name args) →
        (Value.object args).Integral →
        ofPayload (Command.other name args).payload = .command (.other name args)) ∧
      ∀ payload v c, Value.ofString? payload = some v → v.Integral →
        ofPayload payload = .command c → ofPayload c.payload = .command c := by
  refine ⟨fun c known => ofPayload_payload_known known,
    fun payload name args received integral => ofPayload_payload_other received integral, ?_⟩
  intro payload v c read integral received
  by_cases known : c.isKnown
  · exact ofPayload_payload_known known
  · cases c with
    | other name args =>
      obtain ⟨w, same, decoded⟩ := exists_of_ofPayload received
      cases read.symm.trans same
      exact ofPayload_payload_other received (integral_args_of_ofValue? integral decoded)
    | _ => exact absurd rfl known

/-- A version that is a text does not fit, so the command is not typed, neither at first nor
when it is received again. -/
theorem misshapen_identify_received_again :
    let payload := "[\"Identify\", \x7b\"apiVersion\" : \"1\"\x7d]"
    let args : Object := [("apiVersion", .text "1")]
    Command.knownNames.contains "Identify" ∧
      ofPayload payload = .command (.other "Identify" args) ∧
      ofPayload (Command.other "Identify" args).payload = .command (.other "Identify" args) ∧
      ofPayload (Command.connect ⟨-1⟩).payload = .command (.connect ⟨-1⟩) := by
  intro payload args
  have tokens : Json.Token.ofChars? payload.toList =
      some [.openArray, .text (some "Identify"), .comma, .openObject, .text (some "apiVersion"),
        .colon, .text (some "1"), .closeObject, .closeArray] := by
    decide
  have read : Value.ofString? payload = some (.array [.text "Identify", .object args]) := by
    rw [Value.ofString?, Tree.ofString?, tokens]
    rfl
  have bracket : (Text.trimStart payload).startsWith "[" := by
    rw [String.startsWith_string_iff]
    decide
  have received : ofPayload payload = .command (.other "Identify" args) := by
    rw [ofPayload, if_pos bracket, read]
    rfl
  have inner : (Value.object args).Integral := .object (by simp [args, Value.Integral.text])
  have integral : (Value.array [.text "Identify", .object args]).Integral :=
    .array (by simp [Value.Integral.text, inner])
  obtain ⟨known, _, anew⟩ := received_again
  exact ⟨by decide, received, anew payload _ _ read integral received, known _ rfl⟩

end Message
end DebugBridge
