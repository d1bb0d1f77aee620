import Mathlib.Data.String.Basic
import Mathlib.Tactic.SplitIfs
import FieldRules.Proofs.Outcomes
/-!
Files of remote messages. An object that was read has its members in the order of their names, each
name once, so none of its messages gets lost on the way into a table. A check with such a file lays
its messages over the result of the check without it, of a bare map as of the member `errors` of a
response (`remote_file_is_laid_over`). A bare map with a field of that name is taken for a response.
-/

namespace FieldRules

/-! ### Objects that were read -/

namespace Value

/-- Members in the order of their names, each name once. -/
def SortedNames (members : List (String × Value)) : Prop := (members.map Prod.fst).Pairwise (· < ·)

/-- The value was read from a text or from a part of one. -/
def IsRead (v : Value) : Prop := ∃ depth x, ofJson? depth x = some v

theorem isRead_of_ofText? {s : String} {v : Value} (h : ofText? s = some v) : v.IsRead := by
  obtain ⟨x, -, hx⟩ := Option.bind_eq_some_iff.mp h
  exact ⟨_, x, hx⟩

theorem SortedNames.nodup {members : List (String × Value)} (h : SortedNames members) :
    (members.map Prod.fst).Nodup :=
  h.imp String.ne_of_lt

variable {name : String} {v : Value} {m : String × Value}

theorem mem_enter : ∀ {l : List (String × Value)}, m ∈ enter name v l → m = (name, v) ∨ m ∈ l
  | [], h => .inl (List.mem_singleton.mp h)
  | (n, w) :: rest, h => by
    rw [enter] at h
    split_ifs at h with heq hlt
    · rcases List.mem_cons.mp h with h | h
      · exact .inl (heq ▸ h)
      · exact .inr (List.mem_cons_of_mem _ h)
    · exact List.mem_cons.mp h
    · rcases List.mem_cons.mp h with h | h
      · exact .inr (h ▸ List.mem_cons_self)
      · exact (mem_enter h).imp_right (List.mem_cons_of_mem _)

/-- A name is entered where the order wants it, or takes the place of its equal. -/
theorem sortedNames_enter : ∀ {l : List (String × Value)}, SortedNames l →
    SortedNames (enter name v l)
  | [], _ => List.pairwise_singleton _ _
  | (n, w) :: rest, h => by
    obtain ⟨hfirst, hrest⟩ := List.pairwise_cons.mp h
    rw [enter]
    split_ifs with heq hlt
    · exact h
    · refine List.pairwise_cons.mpr ⟨fun other hother => ?_, h⟩
      rcases List.mem_cons.mp hother with rfl | hother
      · exact hlt
      · exact String.lt_trans hlt (hfirst other hother)
    · refine List.pairwise_cons.mpr ⟨fun other hother => ?_, sortedNames_enter hrest⟩
      obtain ⟨m, hm, rfl⟩ := List.mem_map.mp hother
      rcases mem_enter hm with rfl | hm
      · exact Std.lt_of_le_of_ne (String.not_lt.mp hlt) (Ne.symm heq)
      · exact hfirst m.1 (List.mem_map_of_mem hm)

theorem mem_foldl_enter : ∀ {ms l : List (String × Value)},
    m ∈ ms.foldl (fun acc m => enter m.1 m.2 acc) l → m ∈ ms ∨ m ∈ l
  | [], _, h => .inr h
  | first :: rest, l, h => by
    rw [List.foldl_cons] at h
    rcases mem_foldl_enter h with h | h
    · exact .inl (List.mem_cons_of_mem _ h)
    · rcases mem_enter h with rfl | h
      · exact .inl List.mem_cons_self
      · exact .inr h

theorem sortedNames_foldl_enter : ∀ (ms : List (String × Value)) {l : List (String × Value)},
    SortedNames l → SortedNames (ms.foldl (fun acc m => enter m.1 m.2 acc) l)
  | [], _, h => h
  | _ :: rest, _, h => sortedNames_foldl_enter rest (sortedNames_enter h)

theorem isRead_of_membersOfJson? {depth : Nat} : ∀ {raw : List (Option String × Json)}
    {members : List (String × Value)}, membersOfJson? depth raw = some members →
    ∀ m ∈ members, m.2.IsRead
  | [], _, h, m, hm => by
    cases h
    cases hm
  | (_, x) :: raw, _, h, m, hm => by
    obtain ⟨n, -, h⟩ := Option.bind_eq_some_iff.mp h
    obtain ⟨v, hv, h⟩ := Option.bind_eq_some_iff.mp h
    obtain ⟨vs, hvs, h⟩ := Option.bind_eq_some_iff.mp h
    cases h
    rcases List.mem_cons.mp hm with rfl | hm
    · exact ⟨depth, x, hv⟩
    · exact isRead_of_membersOfJson? hvs m hm

/-- What an object is when it was read. -/
theorem IsRead.of_object {members : List (String × Value)} (h : (object members).IsRead) :
    SortedNames members ∧ ∀ m ∈ members, m.2.IsRead := by
  obtain ⟨depth, x, h⟩ := h
  cases x with
  | null | bool => cases h
  | number | string =>
    obtain ⟨_, _, h⟩ := Option.map_eq_some_iff.mp h
    cases h
  | list =>
    cases depth with
    | zero => cases h
    | succ depth =>
      obtain ⟨_, _, h⟩ := Option.map_eq_some_iff.mp h
      cases h
  | object raw =>
    cases depth with
    | zero => cases h
    | succ depth =>
      obtain ⟨ms, hms, h⟩ := Option.map_eq_some_iff.mp h
      cases h
      refine ⟨sortedNames_foldl_enter ms List.Pairwise.nil, fun m hm => ?_⟩
      exact isRead_of_membersOfJson? hms m ((mem_foldl_enter hm).resolve_right nofun)

end Value

/-! ### Messages in values -/

/-- The value is this message, or a list of messages that it begins. -/
inductive Value.Reports : Value → String → Prop
  | one (message : String) : Reports (.text message) message
  | first (message : String) (others : List String) :
    Reports (.list (.text message :: others.map .text)) message

namespace RemoteErrors

theorem messageOf_of_reports {v : Value} {message : String} (h : v.Reports message) :
    messageOf v = some message := by
  cases h <;> rfl

/-- No entry of an object that was read replaces another one. -/
theorem entries_ofValue {members : List (String × Value)} (h : Value.SortedNames members) :
    (ofValue (.object members)).entries = members.map fun m => (m.1, messageOf m.2) := by
  refine Table.entries_ofList_of_nodup ?_
  rw [List.map_map]
  exact h.nodup

theorem message?_ofValue {members : List (String × Value)} (h : Value.SortedNames members)
    {m : String × Value} (hm : m ∈ members) :
    (ofValue (.object members)).message? m.1 = messageOf m.2 := by
  have hentry : (m.1, messageOf m.2) ∈ (ofValue (.object members)).entries := by
    rw [entries_ofValue h]
    exact List.mem_map_of_mem hm
  rw [message?, Table.find?_eq_some_iff.mpr hentry, Option.join_some]

/-- Messages outside of an object are those of no field. -/
theorem ofValue_of_reports {v : Value} {message : String} (h : v.Reports message) :
    ofValue v = .empty := by
  cases h <;> rfl

end RemoteErrors

/-! ### Checks with a remote file -/

namespace Command

variable {files : Files} {settings : Settings} {record rules path : String} {errors : RemoteErrors}

/-- The verdict of the whole record before anything is laid over it. -/
def ownVerdict (files : Files) (settings : Settings) (record rules : String) :
    Except Failure Verdict := do
  let r ← readRecord files record
  let sheet ← readSheet files rules
  ((engineOf settings).evaluateAll r sheet).result.mapError (.unbuildable none)

/-- The message of one field by its own rules. -/
def ownMessage (files : Files) (settings : Settings) (record rules field : String) :
    Except Failure (Option String) := do
  let r ← readRecord files record
  let sheet ← readSheet files rules
  ((engineOf settings).evaluateField field (r.read field) r (sheet.find? field)).result.mapError
    (.unbuildable (some field))

/-- With the file, the check of the record and that of each field come to what they come to without
it, these errors laid over. -/
structure LaysOver (files : Files) (settings : Settings) (record rules path : String)
    (errors : RemoteErrors) : Prop where
  ofRecord : checkAll files settings ⟨record, rules, some path⟩ =
    (checkAll files settings ⟨record, rules, none⟩).map (·.overlay errors)
  ofField : ∀ field, checkField files settings ⟨record, rules, some path⟩ field =
    (checkField files settings ⟨record, rules, none⟩ field).map (errors.message? field <|> ·)

section Remote

variable {remote : Option String} (h : readRemoteOf files remote = .ok errors)
include h

theorem checkAll_eq_map : checkAll files settings ⟨record, rules, remote⟩ =
    (ownVerdict files settings record rules).map (·.overlay errors) := by
  rw [checkAll, ownVerdict, h]
  cases readRecord files record with
  | error f => rfl
  | ok r =>
    cases readSheet files rules with
    | error f => rfl
    | ok sheet =>
      simp only [bind, Except.bind]
      cases ((engineOf settings).evaluateAll r sheet).result <;> rfl

theorem checkField_eq_map (field : String) :
    checkField files settings ⟨record, rules, remote⟩ field =
      (ownMessage files settings record rules field).map (errors.message? field <|> ·) := by
  rw [checkField, ownMessage, h]
  cases readRecord files record with
  | error f => rfl
  | ok r =>
    cases readSheet files rules with
    | error f => rfl
    | ok sheet =>
      simp only [bind, Except.bind]
      cases ((engineOf settings).evaluateField field (r.read field) r (sheet.find? field)).result
        <;> rfl

end Remote

/-- An overlay of nothing does not show once there is another one. -/
theorem overlay_empty_overlay (v : Verdict) (r : RemoteErrors) :
    (v.overlay .empty).overlay r = v.overlay r := by
  rw [Verdict.overlay_eq, Verdict.overlay_eq, Verdict.overlay_eq, Verdict.errors_ofResults]
  rfl

theorem laysOver_of_readRemoteOf (h : readRemoteOf files (some path) = .ok errors) :
    LaysOver files settings record rules path errors := by
  have hnone : readRemoteOf files none = .ok .empty := rfl
  constructor
  · rw [checkAll_eq_map h, checkAll_eq_map hnone]
    cases ownVerdict files settings record rules with
    | error f => rfl
    | ok own => exact congrArg Except.ok (overlay_empty_overlay own errors).symm
  · intro field
    rw [checkField_eq_map h, checkField_eq_map hnone]
    cases ownMessage files settings record rules field <;> rfl

theorem readRemoteOf_of_ofText? {text : String} {body : Value} (hfile : files.read path = .ok text)
    (htext : Value.ofText? text = some body) :
    readRemoteOf files (some path) = .ok (remoteErrorsOf body) := by
  rw [readRemoteOf, readRemote, readValue_eq_ok_iff.mpr ⟨text, hfile, htext⟩]
  rfl

/-- An object without a member `errors` is a bare map. -/
theorem remoteErrorsOf_of_not_mem {members : List (String × Value)}
    (h : "errors" ∉ members.map Prod.fst) :
    remoteErrorsOf (.object members) = .ofValue (.object members) := by
  rw [remoteErrorsOf, Value.member?, Table.lookup_eq_none_of_not_mem h]
  rfl

/-- An object with a member `errors` is a response, whatever that member is. -/
theorem remoteErrorsOf_of_mem {members : List (String × Value)}
    (hsorted : Value.SortedNames members) {v : Value} (h : ("errors", v) ∈ members) :
    remoteErrorsOf (.object members) = .ofValue v := by
  rw [remoteErrorsOf, RemoteErrors.ofEnvelope, Value.member?, Table.lookup_of_mem hsorted.nodup h]
  rfl

/-- A remote file holds an object. If each of its members is a message or a list that begins with
one, and no field is called `errors`, the check lays exactly these messages over its own results:
each field shows its message, whatever the record and the rules are. With a field of that name
nothing at all is laid over. If the member `errors` is an object, exactly its entries are laid
over. -/
theorem remote_file_is_laid_over (files : Files) (settings : Settings) (record rules : String)
    {path text : String} {members : List (String × Value)} (hfile : files.read path = .ok text)
    (htext : Value.ofText? text = some (.object members)) :
    let laidOver := LaysOver files settings record rules path
    let errors := RemoteErrors.ofValue (.object members)
    ((∀ m ∈ members, ∃ message, m.2.Reports message) →
      ("errors" ∉ members.map Prod.fst →
        laidOver errors ∧ errors.names = members.map Prod.fst ∧
        ∀ m ∈ members, ∀ message, m.2.Reports message →
          errors.message? m.1 = some message ∧
          (∀ verdict, checkAll files settings ⟨record, rules, some path⟩ = .ok verdict →
            verdict.error? m.1 = some message) ∧
          ∀ shown, checkField files settings ⟨record, rules, some path⟩ m.1 = .ok shown →
            shown = some message) ∧
      ("errors" ∈ members.map Prod.fst → laidOver .empty)) ∧
    ∀ reported, ("errors", .object reported) ∈ members →
      laidOver (.ofValue (.object reported)) ∧
        (RemoteErrors.ofValue (.object reported)).entries =
          reported.map fun m => (m.1, RemoteErrors.messageOf m.2) := by
  intro laidOver errors
  obtain ⟨hsorted, hmembers⟩ := (Value.isRead_of_ofText? htext).of_object
  have hread : LaysOver files settings record rules path (remoteErrorsOf (.object members)) :=
    laysOver_of_readRemoteOf (readRemoteOf_of_ofText? hfile htext)
  refine ⟨fun hbare => ⟨fun hname => ?_, fun hname => ?_⟩, fun reported hreported => ?_⟩
  · rw [remoteErrorsOf_of_not_mem hname] at hread
    refine ⟨hread, ?_, fun m hm message hmessage => ?_⟩
    · rw [Table.names, RemoteErrors.entries_ofValue hsorted, List.map_map]
      rfl
    · have herror : errors.message? m.1 = some message := by
        rw [RemoteErrors.message?_ofValue hsorted hm, RemoteErrors.messageOf_of_reports hmessage]
      refine ⟨herror, fun verdict hverdict => ?_, fun shown hshown => ?_⟩
      · rw [hread.ofRecord] at hverdict
        obtain ⟨own, -, rfl⟩ := map_eq_ok_iff.mp hverdict
        rw [Verdict.error?_overlay, herror]
        rfl
      · rw [hread.ofField] at hshown
        obtain ⟨own, -, rfl⟩ := map_eq_ok_iff.mp hshown
        rw [herror]
        rfl
  · obtain ⟨⟨_, v⟩, hm, rfl⟩ := List.mem_map.mp hname
    obtain ⟨message, hmessage⟩ := hbare _ hm
    rwa [remoteErrorsOf_of_mem hsorted hm, RemoteErrors.ofValue_of_reports hmessage] at hread
  · rw [remoteErrorsOf_of_mem hsorted hreported] at hread
    obtain ⟨hsorted', -⟩ := (hmembers _ hreported).of_object
    exact ⟨hread, RemoteErrors.entries_ofValue hsorted'⟩

/-- A server that refuses two fields, one of them without a name and with two messages, and a server
that answers with a whole response. -/
theorem remote_files_of_two_servers :
    let bare := "\x7b\"name\": \"Taken.\", \"\": [\"No captcha.\", \"Slow down.\"]\x7d"
    let whole :=
      "\x7b\"message\": \"No.\", \"errors\": \x7b\"name\": [\"Taken.\"], \"age\": null\x7d\x7d"
    let files : Files := .ofList [("r.json", "\x7b\"age\": \"nine\"\x7d"),
      ("s.json", "\x7b\"age\": \"integer\"\x7d"), ("bare.json", bare), ("whole.json", whole)]
    let members := [("", Value.list [.text "No captcha.", .text "Slow down."]),
      ("name", .text "Taken.")]
    let reported := [("age", Value.null), ("name", .list [.text "Taken."])]
    let verdict : Verdict := ⟨false, .ofList [("age", some "The field must be an integer."),
      ("", some "No captcha."), ("name", some "Taken.")]⟩
    files.read "bare.json" = .ok bare ∧ Value.ofText? bare = some (.object members) ∧
      files.read "whole.json" = .ok whole ∧
      Value.ofText? whole =
        some (.object [("errors", .object reported), ("message", .text "No.")]) ∧
      (∀ m ∈ members, ∃ message, m.2.Reports message) ∧ "errors" ∉ members.map Prod.fst ∧
      checkAll files {} ⟨"r.json", "s.json", some "bare.json"⟩ = .ok verdict ∧
      verdict.error? "" = some "No captcha." ∧
      LaysOver files {} "r.json" "s.json" "whole.json" (.ofValue (.object reported)) := by
  intro bare whole files members reported verdict
  have hbare : Value.ofText? bare = some (.object members) := by decide +kernel
  have hwhole : Value.ofText? whole =
      some (.object [("errors", .object reported), ("message", .text "No.")]) := by
    decide +kernel
  have hcaptcha : (Value.list [.text "No captcha.", .text "Slow down."]).Reports "No captcha." :=
    .first "No captcha." ["Slow down."]
  have hreports : ∀ m ∈ members, ∃ message, m.2.Reports message :=
    List.forall_mem_cons.mpr ⟨⟨_, hcaptcha⟩, List.forall_mem_singleton.mpr ⟨_, .one "Taken."⟩⟩
  have hname : "errors" ∉ members.map Prod.fst := by decide
  have hverdict : checkAll files {} ⟨"r.json", "s.json", some "bare.json"⟩ = .ok verdict :=
    eq_ok_of_toOption (by decide +kernel)
  have hfile : files.read "bare.json" = .ok bare := eq_ok_of_toOption (by decide +kernel)
  have hfile' : files.read "whole.json" = .ok whole := eq_ok_of_toOption (by decide +kernel)
  obtain ⟨hlaid, -⟩ := remote_file_is_laid_over files {} "r.json" "s.json" hfile hbare
  obtain ⟨-, -, hmessages⟩ := (hlaid hreports).1 hname
  obtain ⟨-, hshown, -⟩ := hmessages _ List.mem_cons_self "No captcha." hcaptcha
  obtain ⟨-, hresponse⟩ := remote_file_is_laid_over files {} "r.json" "s.json" hfile' hwhole
  obtain ⟨hlaid', -⟩ := hresponse reported List.mem_cons_self
  exact ⟨hfile, hbare, hfile', hwhole, hreports, hname, hverdict, hshown verdict hverdict, hlaid'⟩

/-- A bare map with a field called `errors`: the mail address is refused, and the check says that
the record is valid. -/
theorem remote_messages_lost_beside_errors :
    let text := "\x7b\"errors\": \"Too many.\", \"email\": \"Already taken.\"\x7d"
    let files : Files := .ofList [("r.json", "\x7b\"email\": \"ada@example.com\"\x7d"),
      ("s.json", "\x7b\"email\": \"required\"\x7d"), ("bare.json", text)]
    let members := [("email", Value.text "Already taken."), ("errors", .text "Too many.")]
    let verdict : Verdict := ⟨true, .ofList [("email", none)]⟩
    files.read "bare.json" = .ok text ∧ Value.ofText? text = some (.object members) ∧
      (∀ m ∈ members, ∃ message, m.2.Reports message) ∧
      (RemoteErrors.ofValue (.object members)).message? "email" = some "Already taken." ∧
      checkAll files {} ⟨"r.json", "s.json", some "bare.json"⟩ = .ok verdict ∧
      verdict.error? "email" = none ∧
      ¬ LaysOver files {} "r.json" "s.json" "bare.json" (.ofValue (.object members)) := by
  intro text files members verdict
  have hread : Value.ofText? text = some (.object members) := by decide +kernel
  have hreports : ∀ m ∈ members, ∃ message, m.2.Reports message :=
    List.forall_mem_cons.mpr ⟨⟨_, .one _⟩, List.forall_mem_singleton.mpr ⟨_, .one _⟩⟩
  have hmessage : (RemoteErrors.ofValue (.object members)).message? "email" =
      some "Already taken." :=
    (RemoteErrors.message?_ofValue (Value.isRead_of_ofText? hread).of_object.1
      List.mem_cons_self).trans (RemoteErrors.messageOf_of_reports (.one _))
  have hverdict : checkAll files {} ⟨"r.json", "s.json", some "bare.json"⟩ = .ok verdict :=
    eq_ok_of_toOption (by decide +kernel)
  have hnone : verdict.error? "email" = none := by decide
  refine ⟨eq_ok_of_toOption (by decide +kernel), hread, hreports, hmessage, hverdict, hnone,
    fun hlaid => ?_⟩
  have hrecord := hlaid.ofRecord
  rw [hverdict] at hrecord
  obtain ⟨own, -, hoverlay⟩ := map_eq_ok_iff.mp hrecord.symm
  rw [← hoverlay, Verdict.error?_overlay, hmessage] at hnone
  cases hnone

end Command

end FieldRules
