import DevicePower.Config.Validation
import DevicePower.Proofs.Json.Record

/-!
# Configurations as edited documents

A configuration is printed as a document of sections. This module shows that the document may be
edited before it is read: what is taken out has its default afterwards, what is left is read back
wherever it stands, and what is added under other names does not matter.

## Main results

* `reads_config`: from every text of the edited document the configuration is read that is left of
  it.
* `parse_edited`: what is taken out has its default, and a printed configuration is read back.
-/

namespace DevicePower.Config

open Json Json.Grammar Json.Decoder

/-! ## What an edited document says -/

/-- The device with its default unless its member is kept. -/
def keepingDevice (keep : String → Bool) (d : Device) : Device :=
  if keep "device_class" then d else .unspecified

/-- The notice section with defaults for all members that are not kept. -/
def NoticeSettings.keeping (keep : String → Bool) (n : NoticeSettings) : NoticeSettings where
  token := if keep "interface_token" then n.token else ({} : NoticeSettings).token
  id := if keep "notice_id" then n.id else ({} : NoticeSettings).id
  label := if keep "label" then n.label else ({} : NoticeSettings).label
  closeEvent := if keep "close_event" then n.closeEvent else ({} : NoticeSettings).closeEvent

/-- The power section with defaults for all members that are not kept. -/
def PowerSettings.keeping (keep : String → Bool) (p : PowerSettings) : PowerSettings where
  initialMode := if keep "initial_mode" then p.initialMode else ({} : PowerSettings).initialMode
  screenOn := if keep "screen_on_at_start" then p.screenOn else ({} : PowerSettings).screenOn

/-- The kinds of lock with their default unless their member is kept. -/
def keepingLockKinds (keep : String → Bool) (kinds : List Lock.Kind) : List Lock.Kind :=
  if keep "supported_types" then kinds else Lock.Kind.all

/-- A configuration with defaults for all members that are not kept, and for all sections that are
not. -/
def keeping (kept : Kept) (c : Config) : Config where
  version := if kept.outer "schema_version" then c.version else ({} : Config).version
  device :=
    if kept.outer "device" then keepingDevice (kept.inner "device") c.device
    else ({} : Config).device
  notice := if kept.outer "notice" then c.notice.keeping (kept.inner "notice") else {}
  power := if kept.outer "power" then c.power.keeping (kept.inner "power") else {}
  lockKinds :=
    if kept.outer "running_lock" then keepingLockKinds (kept.inner "running_lock") c.lockKinds
    else ({} : Config).lockKinds

theorem keeping_all (c : Config) : c.keeping .all = c := rfl

/-! ## Reading the sections -/

theorem reads_device (keep : String → Bool) (d : Device) :
    deviceDecoder.Reads (EditedSection keep (deviceJson d)) (keepingDevice keep d) := by
  have hKnown : choose Device.documentNames d.name = .ok d := by
    cases d <;> rfl
  exact reads_record "DeviceSettings"
    (.cons (serves_withDefault "device_class" (fun d _ => d) (reads_variant hKnown)) .nil)
    (by simp [names]) (by simp) rfl

theorem reads_notice (keep : String → Bool) (n : NoticeSettings) :
    noticeDecoder.Reads (EditedSection keep n.toJson) (n.keeping keep) := by
  have hId : int32.Reads (Writes (.int n.id.toInt)) n.id.toInt :=
    reads_integer "i32" n.id.le_toInt (Int.le_sub_one_of_lt n.id.toInt_lt) (by decide) (by decide)
  refine reads_record "NoticeSettings"
    (.cons (serves_withDefault "interface_token"
      (fun token (n : NoticeSettings) => { n with token }) (reads_text "a string" n.token)) <|
    .cons (serves_withDefault "notice_id"
      (fun id (n : NoticeSettings) => { n with id := Int32.ofInt id }) hId) <|
    .cons (serves_withDefault "label"
      (fun label (n : NoticeSettings) => { n with label }) (reads_text "a string" n.label)) <|
    .cons (serves_withDefault "close_event"
      (fun closeEvent (n : NoticeSettings) => { n with closeEvent })
      (reads_text "a string" n.closeEvent)) .nil)
    (by simp [names, Field.withDefault]) (by simp) ?_
  unfold NoticeSettings.keeping
  simp only [List.foldl_cons, List.foldl_nil, Int32.ofInt_toInt]
  cases keep "interface_token" <;> cases keep "notice_id" <;> cases keep "label" <;>
    cases keep "close_event" <;> rfl

theorem reads_power (keep : String → Bool) (p : PowerSettings) :
    powerDecoder.Reads (EditedSection keep p.toJson) (p.keeping keep) := by
  have hMode : word32.Reads (Writes (.nat p.initialMode.toNat)) p.initialMode.toNat := by
    have hSize : (p.initialMode.toNat : Int) ≤ (Text.word32 : Int) - 1 :=
      Int.le_sub_one_of_lt (Int.ofNat_lt.mpr p.initialMode.toNat_lt)
    exact (reads_integer "u32" (Int.natCast_nonneg _) hSize (by decide) (by decide)).map Int.toNat
  refine reads_record "PowerSettings"
    (.cons (serves_withDefault "initial_mode"
      (fun code (p : PowerSettings) => { p with initialMode := UInt32.ofNat code }) hMode) <|
    .cons (serves_withDefault "screen_on_at_start"
      (fun screenOn (p : PowerSettings) => { p with screenOn }) (reads_bool p.screenOn)) .nil)
    (by simp [names, Field.withDefault]) (by simp) ?_
  unfold PowerSettings.keeping
  simp only [List.foldl_cons, List.foldl_nil, UInt32.ofNat_toNat]
  cases keep "initial_mode" <;> cases keep "screen_on_at_start" <;> rfl

theorem reads_lockKinds (keep : String → Bool) (kinds : List Lock.Kind) :
    lockDecoder.Reads (EditedSection keep (lockJson kinds)) (keepingLockKinds keep kinds) := by
  have hKnown : ∀ k : Lock.Kind, choose Lock.Kind.documentNames k.name = .ok k := by
    intro k
    cases k <;> rfl
  have hKinds := reads_list (d := variant Lock.Kind.documentNames) (fun _ _ => nofun)
    (fun k => reads_variant (hKnown k)) kinds
  exact reads_record "RunningLockSettings"
    (.cons (serves_withDefault "supported_types" (fun kinds _ => kinds) hKinds) .nil)
    (by simp [names]) (by simp) rfl

/-! ## Reading the document -/

/-- From every text of the edited document the configuration is read that is left of it. -/
theorem reads_config (kept : Kept) (c : Config) :
    decoder.Reads (EditedDocument kept c.toJson) (c.keeping kept) := by
  refine reads_record "FacadeConfig"
    (.cons (serves_withDefault "schema_version" (fun version (c : Config) => { c with version })
      (reads_text "a string" c.version)) <|
    .cons (serves_withDefault "device" (fun device (c : Config) => { c with device })
      (reads_device (kept.inner "device") c.device)) <|
    .cons (serves_withDefault "notice" (fun notice (c : Config) => { c with notice })
      (reads_notice (kept.inner "notice") c.notice)) <|
    .cons (serves_withDefault "power" (fun power (c : Config) => { c with power })
      (reads_power (kept.inner "power") c.power)) <|
    .cons (serves_withDefault "running_lock" (fun lockKinds (c : Config) => { c with lockKinds })
      (reads_lockKinds (kept.inner "running_lock") c.lockKinds)) .nil)
    (by simp [names, Field.withDefault]) (by simp) ?_
  unfold keeping
  simp only [List.foldl_cons, List.foldl_nil]
  cases kept.outer "schema_version" <;> cases kept.outer "device" <;> cases kept.outer "notice" <;>
    cases kept.outer "power" <;> cases kept.outer "running_lock" <;> rfl

/-! ## The round trip -/

/-- A section as it is printed has all its members. -/
theorem editedSection_text (l : Layout) {members : List (String × Value)}
    (h : ∀ m ∈ members, Writes m.2 (l.inner.text m.2)) :
    EditedSection (fun _ => true) (.object members) (l.text (.object members)) :=
  edited_text l (fun m => Writes m.2) h

/-- A configuration as it is printed has all its sections with all their members. -/
theorem editedDocument_text (l : Layout) (c : Config) :
    EditedDocument .all c.toJson (l.text c.toJson) := by
  have hDevice : EditedSection (fun _ => true) (deviceJson c.device)
      (l.inner.text (deviceJson c.device)) := by
    refine editedSection_text l.inner ?_
    simp only [List.forall_mem_cons]
    exact ⟨writes_text _ _, nofun⟩
  have hNotice : EditedSection (fun _ => true) c.notice.toJson (l.inner.text c.notice.toJson) := by
    refine editedSection_text l.inner ?_
    simp only [List.forall_mem_cons]
    exact ⟨writes_text _ _, writes_int _ _, writes_text _ _, writes_text _ _, nofun⟩
  have hPower : EditedSection (fun _ => true) c.power.toJson (l.inner.text c.power.toJson) := by
    refine editedSection_text l.inner ?_
    simp only [List.forall_mem_cons]
    exact ⟨writes_int _ _, writes_bool _ _, nofun⟩
  have hLocks : EditedSection (fun _ => true) (lockJson c.lockKinds)
      (l.inner.text (lockJson c.lockKinds)) := by
    refine editedSection_text l.inner ?_
    simp only [List.forall_mem_cons]
    refine ⟨writes_list _ fun x hMem => ?_, nofun⟩
    obtain ⟨kind, _, rfl⟩ := List.mem_map.mp hMem
    exact writes_text _ _
  refine edited_text l (fun m => EditedSection (fun _ => true) m.2) ?_
  simp only [List.forall_mem_cons]
  exact ⟨writes_text _ _, hDevice, hNotice, hPower, hLocks, nofun⟩

/-- Whatever members of a configuration's document are taken out, on both levels, in whatever order
the others stand and whatever is added under other names, the document is read, and says what the
configuration says, with defaults for what was taken out. Where nothing was changed, in either
layout, it says what the configuration says. -/
theorem parse_edited (c : Config) :
    (∀ kept cs, EditedDocument kept c.toJson cs →
      parse (String.ofList cs) = .ok (c.keeping kept)) ∧
    parse c.toJson.line = .ok c ∧ parse c.toJson.lines = .ok c := by
  have hEdited : ∀ kept cs, EditedDocument kept c.toJson cs →
      parse (String.ofList cs) = .ok (c.keeping kept) := by
    intro kept cs hText
    have hRead : ofText (String.ofList cs) = .ok (c.keeping kept) :=
      document_of_reads (reads_config kept c) hText
    unfold parse
    rw [hRead]
    rfl
  have hPrinted : ∀ l : Layout, parse (String.ofList (l.text c.toJson)) = .ok c := by
    intro l
    rw [hEdited .all _ (editedDocument_text l c), keeping_all]
  exact ⟨hEdited, hPrinted .line, hPrinted (.lines 0)⟩

/-- A desktop that starts in power saving with the screen off. -/
def savingDesktop : Config := { device := .desktop, power := ⟨601, false⟩ }

/-- Its power section with the members the other way round and one added between them. -/
def savingPower : Value :=
  .object [("screen_on_at_start", .bool false), ("x", .null), ("initial_mode", .nat 601)]

/-- Its document without three of the sections and without the device class, and with the power
section in front. -/
def savingDocument : Value := .object [("power", savingPower), ("device", .object [])]

/-- The document still says what the power section said, and defaults for the rest. -/
theorem parse_savingDocument :
    EditedDocument
      ⟨fun name => name == "device" || name == "power", fun title _ => title == "power"⟩
      savingDesktop.toJson (pretty 0 savingDocument) ∧
    parse savingDocument.lines = .ok { power := ⟨601, false⟩ } := by
  have hPower : EditedSection (fun _ => true) savingDesktop.power.toJson
      ((Layout.lines 1).text savingPower) := by
    have hOrder : List.Perm
        [("screen_on_at_start", Value.bool false), ("x", .null), ("initial_mode", .nat 601)]
        ([("initial_mode", .nat 601), ("screen_on_at_start", .bool false)] ++ [("x", .null)]) :=
      .trans (.cons _ (.swap _ _ [])) (.swap _ _ [_])
    refine edited_printed (.lines 1) hOrder ?_ ?_
    · exact .cons ⟨rfl, writes_int _ _⟩ (.cons ⟨rfl, writes_bool _ _⟩ .nil)
    · simp only [List.forall_mem_cons]
      exact ⟨⟨by decide, .null⟩, nofun⟩
  have hDevice : EditedSection (fun _ => false) (deviceJson savingDesktop.device)
      ((Layout.lines 1).text (.object [])) :=
    edited_printed (.lines 1) (.refl []) .nil nofun
  have hText : EditedDocument
      ⟨fun name => name == "device" || name == "power", fun title _ => title == "power"⟩
      savingDesktop.toJson ((Layout.lines 0).text savingDocument) := by
    have hOrder : List.Perm [("power", savingPower), ("device", .object [])]
        ([("device", .object []), ("power", savingPower)] ++ []) := .swap _ _ []
    refine edited_printed (.lines 0) hOrder ?_ nofun
    exact .cons ⟨rfl, hDevice⟩ (.cons ⟨rfl, hPower⟩ .nil)
  exact ⟨hText, (parse_edited savingDesktop).1 _ _ hText⟩

end DevicePower.Config
