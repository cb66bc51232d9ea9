import DevicePower.Error
import DevicePower.Proofs.Json.OneLine
import DevicePower.Proofs.Json.Reading
import Mathlib.Data.List.Induction

/-!
# Reports of errors

A report is made from an error and may be told further facts by name, of which the last under each
name counts. It is written as a document on one line, without a code if there is none and without a
context if that is empty, and read back as the same report. The facts may be written in any order.

## Main results

* `member?_told_iff`: the facts that a report has in the end.
* `document_line`: a report is read back from its line.
* `report_survives`: what a reader of the line learns of the error and of the facts.
-/

namespace DevicePower.Report

open Json Json.Grammar Json.Decoder

/-! ## Facts -/

/-- The report with texts as facts, one after the other. -/
def told (r : Report) (facts : List (String × String)) : Report :=
  facts.foldl (fun r fact => r.withFact fact.1 (.text fact.2)) r

/-- What the report of an error has as a fact after it was told others: the last that it was told
under the name, or else the number of an unknown command. -/
inductive Fact (e : Error) (facts : List (String × String)) : String → Value → Prop
  | last {name text : String} {before after : List (String × String)}
      (hFacts : facts = before ++ (name, text) :: after) (hLast : ∀ fact ∈ after, fact.1 ≠ name) :
      Fact e facts name (.text text)
  | command {code : UInt32} (hCommand : e = .unsupportedCommand code)
      (hOther : ∀ fact ∈ facts, fact.1 ≠ "command_code") :
      Fact e facts "command_code" (.nat code.toNat)

/-- Being told facts changes nothing but the context. -/
theorem told_eq (facts : List (String × String)) (r : Report) :
    r.told facts = { r with context := (r.told facts).context } := by
  induction facts generalizing r with
  | nil => rfl
  | cons fact rest ih => exact ih (r.withFact fact.1 (.text fact.2))

theorem told_concat (r : Report) (facts : List (String × String)) (fact : String × String) :
    r.told (facts ++ [fact]) = (r.told facts).withFact fact.1 (.text fact.2) := by
  unfold told
  rw [List.foldl_append]
  rfl

theorem nodup_told {r : Report} (h : (r.context.map Prod.fst).Nodup)
    (facts : List (String × String)) : ((r.told facts).context.map Prod.fst).Nodup := by
  induction facts generalizing r with
  | nil => exact h
  | cons fact rest ih => exact ih (Members.nodup_set h fact.1 _)

theorem nodup_ofError (e : Error) : ((ofError e).context.map Prod.fst).Nodup := by
  cases e <;> simp [ofError]

/-- What is found under a name: the last text told under it, or what was there before. -/
theorem member?_told (r : Report) (facts : List (String × String)) (name : String) :
    (r.told facts).context.member? name =
      ((facts.reverse.find? fun fact => fact.1 == name).map fun fact => .text fact.2).or
        (r.context.member? name) := by
  induction facts using List.reverseRecOn with
  | nil => rfl
  | append_singleton facts fact ih =>
    rw [told_concat, List.reverse_concat, List.find?_cons]
    unfold withFact
    by_cases hName : fact.1 = name
    · subst hName
      rw [Members.member?_set_self, beq_self_eq_true]
      rfl
    · rw [Members.member?_set_ne _ _ (Ne.symm hName), beq_eq_false_iff_ne.mpr hName]
      exact ih

theorem last_eq_some_iff {facts : List (String × String)} {name : String}
    {fact : String × String} :
    facts.reverse.find? (fun fact => fact.1 == name) = some fact ↔
      fact.1 = name ∧ ∃ before after, facts = before ++ fact :: after ∧
        ∀ other ∈ after, other.1 ≠ name := by
  rw [List.find?_eq_some_iff_append, beq_iff_eq]
  refine and_congr_right fun _ => ⟨?_, ?_⟩
  · rintro ⟨after, before, hFacts, hLast⟩
    refine ⟨before.reverse, after.reverse, ?_, fun other hMem => ?_⟩
    · rw [← List.reverse_reverse facts, hFacts]
      simp
    · simpa using hLast other (List.mem_reverse.mp hMem)
  · rintro ⟨before, after, rfl, hLast⟩
    refine ⟨after.reverse, before.reverse, by simp, fun other hMem => ?_⟩
    simpa using hLast other (List.mem_reverse.mp hMem)

theorem last_eq_none_iff {facts : List (String × String)} {name : String} :
    facts.reverse.find? (fun fact => fact.1 == name) = none ↔ ∀ fact ∈ facts, fact.1 ≠ name := by
  rw [List.find?_eq_none]
  simp only [List.mem_reverse, beq_iff_eq]

/-- The report of an error begins with the number of an unknown command, and with nothing else. -/
theorem member?_ofError_iff {e : Error} {name : String} {v : Value} :
    (ofError e).context.member? name = some v ↔
      ∃ code, e = .unsupportedCommand code ∧ name = "command_code" ∧ v = .nat code.toNat := by
  constructor
  · intro h
    cases e with
    | unsupportedCommand code =>
      obtain ⟨rfl, rfl⟩ := Prod.mk.inj (List.mem_singleton.mp (Members.mem_of_member? h))
      exact ⟨code, rfl, rfl, rfl⟩
    | _ => exact nomatch h
  · rintro ⟨code, rfl, rfl, rfl⟩
    rfl

/-- The facts that a report has after it was told others. -/
theorem member?_told_iff {e : Error} {facts : List (String × String)} {name : String} {v : Value} :
    ((ofError e).told facts).context.member? name = some v ↔ Fact e facts name v := by
  rw [member?_told]
  cases hFind : facts.reverse.find? fun fact => fact.1 == name with
  | some fact =>
    obtain ⟨key, text⟩ := fact
    obtain ⟨hName, before, after, hFacts, hLast⟩ := last_eq_some_iff.mp hFind
    obtain rfl : key = name := hName
    constructor
    · intro h
      obtain rfl := Option.some.inj h
      exact .last hFacts hLast
    · intro h
      cases h with
      | last hFacts' hLast' =>
        have hSame := last_eq_some_iff.mpr ⟨rfl, _, _, hFacts', hLast'⟩
        obtain rfl := (Prod.mk.inj (Option.some.inj (hFind.symm.trans hSame))).2
        rfl
      | command _ hOther => exact nomatch hFind.symm.trans (last_eq_none_iff.mpr hOther)
  | none =>
    have hOther := last_eq_none_iff.mp hFind
    rw [Option.map_none, Option.none_or, member?_ofError_iff]
    constructor
    · rintro ⟨code, hCommand, rfl, rfl⟩
      exact .command hCommand hOther
    · intro h
      cases h with
      | last hFacts _ =>
        exact absurd rfl (hOther _ (hFacts ▸ List.mem_append_right _ List.mem_cons_self))
      | command hCommand _ => exact ⟨_, hCommand, rfl, rfl⟩

/-! ## Reading a report -/

theorem scalar_ne_object {tokens tail : List Token} {ms : Members} :
    scalar tokens ≠ .ok (.object ms, tail) := by
  intro h
  unfold scalar at h
  split at h <;> exact nomatch h

/-- An object of values is read as the context of a report if the reader of values reads it. -/
theorem contextDecoder_of_value {tokens tail : List Token} {ms : Members}
    (h : valueWithin (contextLevels + 1) tokens = .ok (.object ms, tail)) :
    contextDecoder tokens = .ok (ms, tail) := by
  cases tokens with
  | nil => exact nomatch h
  | cons token rest =>
    cases token with
    | openObject =>
      have hEntries : (entries (valueWithin contextLevels) (rest.length + 1) true [] rest).map
          (fun read => (Value.object read.1, read.2)) = .ok (.object ms, tail) := h
      show entries (valueWithin contextLevels) (rest.length + 1) true [] rest = .ok (ms, tail)
      cases hRead : entries (valueWithin contextLevels) (rest.length + 1) true [] rest with
      | error e =>
        rw [hRead] at hEntries
        exact nomatch hEntries
      | ok read =>
        rw [hRead] at hEntries
        obtain ⟨hObject, hTail⟩ := Prod.mk.inj (Except.ok.inj hEntries)
        exact congrArg Except.ok (Prod.ext (Value.object.inj hObject) hTail)
    | openList =>
      have hItems : (items (valueWithin contextLevels) (rest.length + 1) true [] rest).map
          (fun read => (Value.list read.1, read.2)) = .ok (.object ms, tail) := h
      cases hRead : items (valueWithin contextLevels) (rest.length + 1) true [] rest with
      | error e =>
        rw [hRead] at hItems
        exact nomatch hItems
      | ok read =>
        rw [hRead] at hItems
        exact nomatch (Prod.mk.inj (Except.ok.inj hItems)).1
    | _ => exact absurd h scalar_ne_object

/-- What is written for a context is read as the context. -/
theorem reads_context (ms : Members) (hFits : (Value.object ms).FitsIn (contextLevels + 1)) :
    contextDecoder.Reads (Means ReadsDouble (.object ms)) ms := by
  intro cs hMeans
  obtain ⟨ts, hScans, hGives⟩ := reads_means hMeans hFits
  exact ⟨ts, hScans, fun tail => contextDecoder_of_value (hGives tail)⟩

/-- The texts of a code, of which there are none where there is no code. -/
def CodeText : Option Int32 → List Char → Prop
  | some code => Writes (.int code.toInt)
  | none => fun _ => False

theorem reads_code (code : Option Int32) :
    (Decoder.optional int32).Reads (CodeText code) (code.map Int32.toInt) := by
  cases code with
  | none => exact fun _ hNone => hNone.elim
  | some code =>
    have hLow : -(Text.half32 : Int) ≤ code.toInt := code.le_toInt
    have hHigh : code.toInt ≤ Text.half32 - 1 := Int.le_sub_one_of_lt code.toInt_lt
    have hLowest : -(Text.half64 : Int) ≤ code.toInt := Int.le_trans (by decide) hLow
    have hHighest : code.toInt < Text.word64 := Int.lt_of_le_of_lt hHigh (by decide)
    refine reads_token (fun _ => scans_of_writes_int hLowest hHighest) fun tail => ?_
    have hRead : int32 (.number (.ok (.integer code.toInt)) (.ok ()) :: tail) =
        .ok (code.toInt, tail) := by
      show (if -(Text.half32 : Int) ≤ code.toInt ∧ code.toInt ≤ Text.half32 - 1 then _ else _) = _
      rw [if_pos ⟨hLow, hHigh⟩]
    show Decoder.map some int32 _ = _
    unfold Decoder.map
    rw [hRead]
    rfl

theorem reads_category (c : Category) :
    (variant Category.documentNames).Reads (Writes (.text c.name)) c := by
  refine reads_variant ?_
  cases c <;> rfl

/-- The members of the document form that are there. -/
def kept (r : Report) (name : String) : Bool :=
  if name = "code" then r.code.isSome
  else if name = "context" then !r.context.isEmpty
  else true

/-- A report is read from every text of its document form. -/
theorem reads_report (r : Report) (hFits : (Value.object r.context).FitsIn (contextLevels + 1)) :
    decoder.Reads (Edited
      [("code", CodeText r.code), ("category", Writes (.text r.category.name)),
        ("message", Writes (.text r.message)), ("recoverable", Writes (.bool r.recoverable)),
        ("context", Means ReadsDouble (.object r.context))] r.kept) r := by
  refine reads_record "StructuredError"
    (.cons (serves_nullable "code"
      (fun code (r : Report) => { r with code := code.map Int32.ofInt }) (reads_code r.code)) <|
    .cons (serves_needed "category" (fun category (r : Report) => { r with category })
      (reads_category r.category) rfl) <|
    .cons (serves_needed "message" (fun message (r : Report) => { r with message })
      (reads_text "a string" r.message) rfl) <|
    .cons (serves_needed "recoverable" (fun recoverable (r : Report) => { r with recoverable })
      (reads_bool r.recoverable) rfl) <|
    .cons (serves_withDefault "context" (fun context (r : Report) => { r with context })
      (reads_context r.context hFits)) .nil)
    (by simp [names, Field.withDefault, Field.needed, Field.nullable]) (by simp) ?_
  obtain ⟨code, category, message, recoverable, context⟩ := r
  simp only [List.foldl_cons, List.foldl_nil]
  cases code <;> cases context <;> simp [kept]

/-! ## The line of a report -/

variable {r : Report}

/-- The document form as it is printed has the members that are there. -/
theorem edited_line
    (hContext : Means ReadsDouble (.object r.context) (print (.object r.context))) :
    Edited
      [("code", CodeText r.code), ("category", Writes (.text r.category.name)),
        ("message", Writes (.text r.message)), ("recoverable", Writes (.bool r.recoverable)),
        ("context", Means ReadsDouble (.object r.context))] r.kept (print r.toJson) := by
  refine edited_printed .line (.of_eq (List.append_nil _).symm) ?_ nofun
  obtain ⟨code, category, message, recoverable, context⟩ := r
  have hCategory := writes_text .line category.name
  have hMessage := writes_text .line message
  have hRecoverable := writes_bool .line recoverable
  cases code with
  | none =>
    cases context with
    | nil => exact .cons ⟨rfl, hCategory⟩ (.cons ⟨rfl, hMessage⟩ (.cons ⟨rfl, hRecoverable⟩ .nil))
    | cons m rest =>
      exact .cons ⟨rfl, hCategory⟩ (.cons ⟨rfl, hMessage⟩
        (.cons ⟨rfl, hRecoverable⟩ (.cons ⟨rfl, hContext⟩ .nil)))
  | some code =>
    have hCode := writes_int .line code.toInt
    cases context with
    | nil =>
      exact .cons ⟨rfl, hCode⟩ (.cons ⟨rfl, hCategory⟩ (.cons ⟨rfl, hMessage⟩
        (.cons ⟨rfl, hRecoverable⟩ .nil)))
    | cons m rest =>
      exact .cons ⟨rfl, hCode⟩ (.cons ⟨rfl, hCategory⟩ (.cons ⟨rfl, hMessage⟩
        (.cons ⟨rfl, hRecoverable⟩ (.cons ⟨rfl, hContext⟩ .nil))))

/-- Whether the context of a report can be written and read back. -/
structure IsWritable (r : Report) : Prop where
  sound : (Value.object r.context).IsSound fun x => x.IsCanonical ∧ IsReadBack x
  fits : (Value.object r.context).FitsIn (contextLevels + 1)

/-- A report is read back from its line. -/
theorem document_line (h : r.IsWritable) : decoder.document r.line = .ok r :=
  document_of_reads (reads_report r h.fits)
    (edited_line (means_layout (fun _ hDouble => readsDouble_text hDouble.1 hDouble.2) h.sound
      .line))

/-- What the members of the document form are. -/
theorem mem_toJson {members : Members} (hJson : r.toJson = .object members) {m : String × Value}
    (hMem : m ∈ members) :
    (∃ code : Int32, m.2 = .int code.toInt) ∨ (∃ s, m.2 = .text s) ∨ (∃ b, m.2 = .bool b) ∨
      m.2 = .object r.context := by
  obtain rfl := Value.object.inj hJson
  simp only [List.mem_append, Option.mem_toList, Option.map_eq_some_iff,
    List.mem_cons, List.not_mem_nil, or_false] at hMem
  rcases hMem with (⟨code, -, rfl⟩ | rfl | rfl | rfl) | hContext
  · exact .inl ⟨code, rfl⟩
  · exact .inr (.inl ⟨_, rfl⟩)
  · exact .inr (.inl ⟨_, rfl⟩)
  · exact .inr (.inr (.inl ⟨_, rfl⟩))
  · split at hContext
    · exact nomatch hContext
    · obtain rfl := List.mem_singleton.mp hContext
      exact .inr (.inr (.inr rfl))

/-- The document form is a sound value. -/
theorem isSound_toJson (h : r.IsWritable) :
    r.toJson.IsSound fun x => x.IsCanonical ∧ IsReadBack x := by
  refine .object ?_ fun m hMem => ?_
  · obtain ⟨code, category, message, recoverable, context⟩ := r
    cases code <;> cases context <;> simp
  · rcases mem_toJson rfl hMem with ⟨code, hValue⟩ | ⟨s, hValue⟩ | ⟨b, hValue⟩ | hValue
    · have hLow : -(Text.half32 : Int) ≤ code.toInt := code.le_toInt
      have hHigh : code.toInt < Text.half32 := code.toInt_lt
      exact hValue ▸ .integer (Int.le_trans (by decide) hLow) (Int.lt_trans hHigh (by decide))
    · exact hValue ▸ .text s
    · exact hValue ▸ .bool b
    · exact hValue ▸ h.sound

theorem fitsIn_toJson (h : r.IsWritable) : r.toJson.FitsIn levels := by
  refine .object fun m hMem => ?_
  rcases mem_toJson rfl hMem with ⟨code, hValue⟩ | ⟨s, hValue⟩ | ⟨b, hValue⟩ | hValue
  · exact hValue ▸ .number _
  · exact hValue ▸ .text s
  · exact hValue ▸ .bool b
  · exact hValue ▸ h.fits

/-- The line of a report has a code if the report has one. -/
theorem member?_code_toJson (r : Report) :
    r.toJson.member? "code" = r.code.map fun code => .int code.toInt := by
  obtain ⟨code, category, message, recoverable, context⟩ := r
  cases code with
  | some code => rfl
  | none => cases context <;> rfl

/-! ## What a reader of the line learns -/

/-- A fact is a text, but for the number of an unknown command. -/
theorem Fact.value_eq {e : Error} {facts : List (String × String)} {name : String} {v : Value}
    (h : Fact e facts name v) : (∃ s, v = .text s) ∨ ∃ code : UInt32, v = .nat code.toNat := by
  cases h with
  | last => exact .inl ⟨_, rfl⟩
  | command => exact .inr ⟨_, rfl⟩

/-- A report that was told texts can be written, in whatever order. -/
theorem isWritable_told (e : Error) (facts : List (String × String)) {written : Members}
    (hOrder : written.Perm ((ofError e).told facts).context) :
    IsWritable { (ofError e).told facts with context := written } := by
  have hNodup := nodup_told (nodup_ofError e) facts
  have hValue : ∀ m ∈ written, (∃ s, m.2 = .text s) ∨ ∃ code : UInt32, m.2 = .nat code.toNat :=
    fun m hMem =>
      (member?_told_iff.mp (Members.member?_of_mem hNodup (hOrder.subset hMem))).value_eq
  constructor
  · refine .object ((hOrder.map Prod.fst).nodup_iff.mpr hNodup) fun m hMem => ?_
    rcases hValue m hMem with ⟨s, hText⟩ | ⟨code, hCode⟩
    · exact hText ▸ .text s
    · have hSmall : (code.toNat : Int) < Text.word32 := Int.ofNat_lt.mpr code.toNat_lt
      exact hCode ▸ .integer (Int.le_trans (by decide) (Int.natCast_nonneg _))
        (Int.lt_trans hSmall (by decide))
  · refine .object fun m hMem => ?_
    rcases hValue m hMem with ⟨s, hText⟩ | ⟨code, hCode⟩
    · exact hText ▸ .text s
    · exact hCode ▸ .number _

/-- What a reader of the line learns of an error and of the texts that its report was told. The
facts stand in any order, `written`, for a context has none. -/
theorem report_survives (e : Error) (facts : List (String × String)) {written : Members}
    (hOrder : written.Perm ((ofError e).told facts).context) :
    let text := line { (ofError e).told facts with context := written }
    (∀ c ∈ text.toList, 0x20 ≤ c.toNat) ∧
      (∃ v, Value.ofText text = .ok v ∧
        v.member? "code" = e.businessCode.map fun code => .int code.toInt) ∧
      ∃ r, decoder.document text = .ok r ∧ r.code = e.businessCode ∧ r.category = e.category ∧
        r.message = e.message ∧ r.recoverable = e.isRecoverable ∧
        (r.context.map Prod.fst).Nodup ∧
        ∀ name v, r.context.member? name = some v ↔ Fact e facts name v := by
  have hWritable := isWritable_told e facts hOrder
  have hTold := told_eq facts (ofError e)
  have hCode : ((ofError e).told facts).code = e.businessCode := congrArg Report.code hTold
  have hNodup := nodup_told (nodup_ofError e) facts
  have hNames : (written.map Prod.fst).Nodup := (hOrder.map Prod.fst).nodup_iff.mpr hNodup
  refine ⟨?_, ⟨_, ofText_line (isSound_toJson hWritable) (fitsIn_toJson hWritable), ?_⟩,
    _, document_line hWritable, hCode, congrArg Report.category hTold,
    congrArg Report.message hTold, congrArg Report.recoverable hTold, hNames, fun name v => ?_⟩
  · rw [line, Value.line, String.toList_ofList]
    exact noControl_print _
  · rw [member?_code_toJson, hCode]
  · rw [← member?_told_iff, Members.member?_eq_some_iff hNames, Members.member?_eq_some_iff hNodup]
    exact hOrder.mem_iff

/-- A report of an unknown command that was told three texts, two of them under one name, and whose
facts are written in another order than they came. -/
theorem report_survives_reordered :
    List.Perm [("a\nb", Value.text "2"), ("b", .text "3"), ("command_code", .nat 9)]
        ((ofError (.unsupportedCommand 9)).told [("b", "1"), ("a\nb", "2"), ("b", "3")]).context ∧
      ∃ r, decoder.document (line { ofError (.unsupportedCommand 9) with
        context := [("a\nb", .text "2"), ("b", .text "3"), ("command_code", .nat 9)] }) = .ok r ∧
        r.context.member? "b" = some (.text "3") := by
  have hContext : ((ofError (.unsupportedCommand 9)).told
      [("b", "1"), ("a\nb", "2"), ("b", "3")]).context =
      [("a\nb", Value.text "2"), ("b", .text "3"), ("command_code", .nat 9)].reverse := rfl
  have hOrder : List.Perm [("a\nb", Value.text "2"), ("b", .text "3"), ("command_code", .nat 9)]
      ((ofError (.unsupportedCommand 9)).told
        [("b", "1"), ("a\nb", "2"), ("b", "3")]).context := hContext ▸ (List.reverse_perm _).symm
  obtain ⟨-, -, r, hRead, -, -, -, -, -, hFacts⟩ := report_survives _ _ hOrder
  have hLast : Fact (.unsupportedCommand 9) [("b", "1"), ("a\nb", "2"), ("b", "3")] "b"
      (.text "3") := @Fact.last _ _ _ _ [("b", "1"), ("a\nb", "2")] [] rfl nofun
  exact ⟨hOrder, r, hRead, (hFacts "b" _).mpr hLast⟩

end DevicePower.Report
