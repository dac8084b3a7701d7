import Layerfile.Proofs.Placement
import Mathlib.Data.List.Induction

/-! Which layer decides a setting. A layer that keeps to the known settings is a patch; the last
override that gives a setting decides it, else the last file, else the built-in value. -/

namespace Layerfile

/-! ### What a layer sets -/

inductive Setting where
  | documentSchemes
  | valueSpan
  | filter
deriving DecidableEq, Repr

namespace Setting

def all : List Setting := [documentSchemes, valueSpan, filter]

def table : Setting → String
  | documentSchemes => "server"
  | valueSpan => "highlighting"
  | filter => "logging"

def field : Setting → String
  | documentSchemes => "document_schemes"
  | valueSpan => "value_span"
  | filter => "filter"

def key (setting : Setting) : String :=
  setting.table ++ "." ++ setting.field

def path (setting : Setting) : Path :=
  ⟨setting.table, [.key setting.field]⟩

end Setting

structure Patch where
  documentSchemes : Option (List String) := none
  valueSpan : Option ValueSpan := none
  filter : Option String := none
deriving DecidableEq, Repr

def Value.string? : Value → Option String
  | .str text => some text
  | _ => none

namespace Patch

/-- Gives a setting a value of its kind: an array of strings, the name of a mode, a string. -/
def set? (patch : Patch) : Setting → Value → Option Patch
  | .documentSchemes, .array items => do
    return { patch with documentSchemes := some (← items.mapM Value.string?) }
  | .valueSpan, .str name => do
    return { patch with valueSpan := some (← ValueSpan.ofName? name) }
  | .filter, .str text => some { patch with filter := some text }
  | _, _ => none

/-- Gives the settings in the table of `setting`, which has no other key than its own. -/
def addField? (setting : Setting) (patch : Patch) (entry : String × Value) : Option Patch :=
  if entry.1 = setting.field then patch.set? setting entry.2 else none

def addTable? (patch : Patch) (entry : String × Value) : Option Patch := do
  let setting ← Setting.all.find? (·.table = entry.1)
  match entry.2 with
  | .table fields => fields.foldlM (addField? setting) patch
  | _ => none

def apply (patch : Patch) (settings : Settings) : Settings where
  documentSchemes := patch.documentSchemes.getD settings.documentSchemes
  valueSpan := patch.valueSpan.getD settings.valueSpan
  filter := patch.filter.getD settings.filter

end Patch

/-- What a layer sets: the tables of a file, or the key of an override. An absent optional file
sets nothing. None if the layer is missing or holds anything but settings. -/
def Layer.patch? : Layer → Option Patch
  | .file required none => if required then none else some {}
  | .file _ (some text) => do (← Toml.read? text).foldlM Patch.addTable? {}
  | .override key value => do
    let setting ← Setting.all.find? (·.key = key)
    ({} : Patch).set? setting value

def Layer.isFile (layer : Layer) : Bool :=
  !layer.isOverride

def Layer.latest? {α : Type} (field : Patch → Option α) (layers : List Layer) : Option α :=
  ((layers.filterMap patch?).filterMap field).getLast?

/-- The value that decides a field: that of the last override that gives it, else that of the last
file that does. -/
def Layer.decided? {α : Type} (field : Patch → Option α) (layers : List Layer) : Option α :=
  (latest? field (layers.filter isOverride)).or (latest? field (layers.filter isFile))

/-! ### Settings in a value -/

namespace Setting

@[simp] theorem lower_table (setting : Setting) : Text.lower setting.table = setting.table := by
  cases setting <;> decide +kernel

@[simp] theorem lower_field (setting : Setting) : Text.lower setting.field = setting.field := by
  cases setting <;> decide +kernel

theorem read?_table (setting : Setting) :
    Path.read? setting.table = some ⟨setting.table, []⟩ := by
  cases setting <;> decide +kernel

theorem read?_key (setting : Setting) : Path.read? setting.key = some setting.path := by
  cases setting <;> decide +kernel

theorem table_inj {setting other : Setting} : setting.table = other.table ↔ setting = other := by
  cases setting <;> cases other <;> decide

theorem path_injective : Function.Injective path :=
  fun _ _ h => table_inj.mp (Path.mk.inj h).1

/-- The value is the one that the settings have. -/
def Gives (setting : Setting) (value : Value) (settings : Settings) : Prop :=
  match setting with
  | documentSchemes => value = .array (settings.documentSchemes.map .str)
  | valueSpan => ∃ name, value = .str name ∧ ValueSpan.ofName? name = some settings.valueSpan
  | filter => value = .str settings.filter

end Setting

namespace Value

def setting? (root : Value) (setting : Setting) : Option Value := do
  let fields ← root.entries.lookup setting.table
  fields.entries.lookup setting.field

/-- Every setting stands in the value. -/
def Holds (root : Value) (settings : Settings) : Prop :=
  ∀ setting : Setting, ∃ value, root.setting? setting = some value ∧ setting.Gives value settings

theorem assign_of_ne_table {value : Value} (h : ∀ entries, value ≠ .table entries) (key : String)
    (root : Value) : assign key value root = .table (put (Text.lower key) value root.entries) := by
  cases value with
  | table entries => exact absurd rfl (h entries)
  | null | bool | int | float | str | array => rw [assign]

/-- Another table in the place of the one that holds a setting changes this setting alone. -/
theorem setting?_put (root fields : Value) (setting other : Setting) :
    (table (put setting.table fields root.entries)).setting? other =
      if other = setting then fields.entries.lookup setting.field else root.setting? other := by
  by_cases hother : other = setting
  · subst hother
    simp [setting?, entries, lookup_put]
  · have htable : other.table ≠ setting.table := fun heq => hother (Setting.table_inj.mp heq)
    simp [setting?, entries, lookup_put, hother, htable]

theorem section?_of_lookup {fields value : Value} {field : String}
    (h : fields.entries.lookup field = some value) (struct : String) :
    fields.section? struct field = .ok (.key field, value) := by
  cases fields with
  | table entries =>
      have hlookup : entries.lookup field = some value := h
      simp only [section?, hlookup]
  | null | bool | int | float | str | array => simp [entries] at h

theorem textsAt_map_str (place : List Step) (index : Nat) (texts : List String) :
    textsAt place index (texts.map str) = .ok texts := by
  induction texts generalizing index with
  | nil => rfl
  | cons text texts ih =>
      rw [List.map_cons, textsAt, ih]
      rfl

theorem Holds.toSettings {root : Value} {settings : Settings} (h : root.Holds settings) :
    root.toSettings = .ok settings := by
  obtain ⟨schemes, hschemes, rfl⟩ := h .documentSchemes
  obtain ⟨mode, hmode, name, rfl, hname⟩ := h .valueSpan
  obtain ⟨text, htext, rfl⟩ := h .filter
  obtain ⟨server, hserver, hschemes⟩ := Option.bind_eq_some_iff.mp hschemes
  obtain ⟨highlighting, hhighlighting, hmode⟩ := Option.bind_eq_some_iff.mp hmode
  obtain ⟨logging, hlogging, htext⟩ := Option.bind_eq_some_iff.mp htext
  simp only [Setting.table, Setting.field] at hserver hhighlighting hlogging hschemes hmode htext
  simp only [Value.toSettings, topSection, hserver, hhighlighting, hlogging, schemesAt,
    textsAt_map_str, mode, hname, textAt, text?, bind, Except.bind, section?_of_lookup hschemes,
    Value.section?_of_lookup hmode, Value.section?_of_lookup htext]
  rfl

end Value

def Config.builtIn : Settings where
  documentSchemes := ["file"]
  valueSpan := .absorbToEnd
  filter := "info"

theorem Config.holds_defaults : defaults.Holds builtIn := by
  intro setting
  cases setting with
  | documentSchemes => exact ⟨_, rfl, rfl⟩
  | valueSpan => exact ⟨_, rfl, _, rfl, by decide +kernel⟩
  | filter => exact ⟨_, rfl, rfl⟩

/-! ### Patches -/

theorem Value.eq_map_str_of_mapM {items : List Value} {texts : List String}
    (h : items.mapM string? = some texts) : items = texts.map str := by
  induction items generalizing texts with
  | nil =>
      obtain rfl : [] = texts := by simpa using h
      rfl
  | cons item items ih =>
      rw [List.mapM_cons] at h
      obtain ⟨text, htext, h⟩ := Option.bind_eq_some_iff.mp h
      obtain ⟨later, hlater, h⟩ := Option.bind_eq_some_iff.mp h
      obtain rfl := Option.some.inj h
      obtain rfl : item = str text := by
        cases item with
        | str own => exact congrArg str (Option.some.inj htext)
        | null | bool | int | float | array | table => simp [string?] at htext
      rw [List.map_cons, ← ih hlater]

namespace Patch

/-- Everything that giving a setting can be. -/
theorem set?_cases {patch next : Patch} {setting : Setting} {value : Value}
    (h : patch.set? setting value = some next) :
    (∃ texts : List String, setting = .documentSchemes ∧ value = .array (texts.map .str) ∧
      next = { patch with documentSchemes := some texts }) ∨
    (∃ name mode, setting = .valueSpan ∧ value = .str name ∧
      ValueSpan.ofName? name = some mode ∧ next = { patch with valueSpan := some mode }) ∨
    ∃ text, setting = .filter ∧ value = .str text ∧ next = { patch with filter := some text } := by
  unfold set? at h
  split at h
  · next items =>
      obtain ⟨texts, htexts, h⟩ := Option.bind_eq_some_iff.mp h
      exact .inl ⟨texts, rfl, by rw [Value.eq_map_str_of_mapM htexts], (Option.some.inj h).symm⟩
  · next name =>
      obtain ⟨mode, hmode, h⟩ := Option.bind_eq_some_iff.mp h
      exact .inr (.inl ⟨name, mode, rfl, rfl, hmode, (Option.some.inj h).symm⟩)
  · next text => exact .inr (.inr ⟨text, rfl, rfl, (Option.some.inj h).symm⟩)
  · cases h

theorem ne_table_of_set? {patch next : Patch} {setting : Setting} {value : Value}
    (h : patch.set? setting value = some next) (entries : List (String × Value)) :
    value ≠ .table entries := by
  rcases set?_cases h with ⟨texts, -, rfl, -⟩ | ⟨name, mode, -, rfl, -⟩ | ⟨text, -, rfl, -⟩
  · simp
  · simp
  · simp

/-- A patch of one setting alone. -/
def Only (setting : Setting) (patch : Patch) : Prop :=
  match setting with
  | .documentSchemes => ∃ texts, patch = { documentSchemes := some texts }
  | .valueSpan => ∃ mode, patch = { valueSpan := some mode }
  | .filter => ∃ text, patch = { filter := some text }

theorem only_of_set? {patch : Patch} {setting : Setting} {value : Value}
    (h : ({} : Patch).set? setting value = some patch) : patch.Only setting := by
  rcases set?_cases h with ⟨texts, rfl, -, rfl⟩ | ⟨name, mode, rfl, -, -, rfl⟩ | ⟨text, rfl, -, rfl⟩
  · exact ⟨texts, rfl⟩
  · exact ⟨mode, rfl⟩
  · exact ⟨text, rfl⟩

theorem Only.apply_apply {patch earlier : Patch} {setting : Setting} (h : patch.Only setting)
    (hearlier : earlier.Only setting) (settings : Settings) :
    patch.apply (earlier.apply settings) = patch.apply settings := by
  cases setting with
  | documentSchemes | valueSpan | filter =>
      obtain ⟨_, rfl⟩ := h
      obtain ⟨_, rfl⟩ := hearlier
      rfl

theorem Only.apply_comm {patch other : Patch} {setting otherSetting : Setting}
    (h : patch.Only setting) (hother : other.Only otherSetting) (hne : setting ≠ otherSetting)
    (settings : Settings) :
    patch.apply (other.apply settings) = other.apply (patch.apply settings) := by
  cases setting with
  | documentSchemes =>
      obtain ⟨texts, rfl⟩ := h
      cases otherSetting with
      | documentSchemes => exact absurd rfl hne
      | valueSpan | filter =>
          obtain ⟨_, rfl⟩ := hother
          rfl
  | valueSpan =>
      obtain ⟨mode, rfl⟩ := h
      cases otherSetting with
      | valueSpan => exact absurd rfl hne
      | documentSchemes | filter =>
          obtain ⟨_, rfl⟩ := hother
          rfl
  | filter =>
      obtain ⟨text, rfl⟩ := h
      cases otherSetting with
      | filter => exact absurd rfl hne
      | documentSchemes | valueSpan =>
          obtain ⟨_, rfl⟩ := hother
          rfl

end Patch

namespace Value

theorem Holds.set? {root result value : Value} {patch next : Patch} {setting : Setting}
    {settings : Settings} (h : root.Holds (patch.apply settings))
    (hset : patch.set? setting value = some next) (hown : result.setting? setting = some value)
    (hothers : ∀ other, other ≠ setting → result.setting? other = root.setting? other) :
    result.Holds (next.apply settings) := by
  intro other
  by_cases hother : other = setting
  · subst hother
    refine ⟨value, hown, ?_⟩
    rcases Patch.set?_cases hset with
      ⟨texts, rfl, rfl, rfl⟩ | ⟨name, mode, rfl, rfl, hmode, rfl⟩ | ⟨text, rfl, rfl, rfl⟩
    · rfl
    · exact ⟨name, rfl, hmode⟩
    · rfl
  · obtain ⟨old, hold, hgives⟩ := h other
    refine ⟨old, (hothers other hother).trans hold, ?_⟩
    rcases Patch.set?_cases hset with
      ⟨texts, rfl, -, rfl⟩ | ⟨name, mode, rfl, -, -, rfl⟩ | ⟨text, rfl, -, rfl⟩
    · cases other with
      | documentSchemes => exact absurd rfl hother
      | valueSpan | filter => exact hgives
    · cases other with
      | valueSpan => exact absurd rfl hother
      | documentSchemes | filter => exact hgives
    · cases other with
      | filter => exact absurd rfl hother
      | documentSchemes | valueSpan => exact hgives

/-- Merging the fields of a table is giving its setting again and again. -/
theorem Holds.assignAll {root fields : Value} {patch next : Patch} {setting : Setting}
    {settings : Settings} {incoming : List (String × Value)}
    (h : (table (put setting.table fields root.entries)).Holds (patch.apply settings))
    (hincoming : incoming.foldlM (Patch.addField? setting) patch = some next) :
    (table (put setting.table (assignAll incoming fields) root.entries)).Holds
      (next.apply settings) := by
  induction incoming generalizing fields patch with
  | nil =>
      obtain rfl : patch = next := by simpa using hincoming
      rwa [Value.assignAll]
  | cons entry incoming ih =>
      obtain ⟨key, value⟩ := entry
      rw [List.foldlM_cons] at hincoming
      obtain ⟨middle, hmiddle, hlater⟩ := Option.bind_eq_some_iff.mp hincoming
      simp only [Patch.addField?, Option.ite_none_right_eq_some] at hmiddle
      obtain ⟨rfl, hset⟩ := hmiddle
      have hassign : assign setting.field value fields =
          table (put setting.field value fields.entries) := by
        rw [assign_of_ne_table (Patch.ne_table_of_set? hset), Setting.lower_field]
      rw [Value.assignAll, hassign]
      apply ih _ hlater
      apply h.set? hset
      · rw [setting?_put, if_pos rfl]
        simp [entries, lookup_put]
      · intro other hother
        rw [setting?_put, setting?_put, if_neg hother, if_neg hother]

end Value

namespace Config

/-! ### Files -/

theorem mergeEntry_table (root : Value) (setting : Setting) (fields : List (String × Value)) :
    mergeEntry root (setting.table, .table fields) =
      .ok (.table (put setting.table
        (Value.assignAll fields ((root.entries.lookup setting.table).getD (.table [])))
        root.entries)) := by
  simp only [mergeEntry, setting.read?_table, Path.assign, Value.assignStep, ofIndex]
  rw [Value.assign, setting.lower_table]

theorem exists_mergeEntry_of_addTable? {root : Value} {patch next : Patch} {settings : Settings}
    {entry : String × Value} (h : root.Holds (patch.apply settings))
    (hentry : patch.addTable? entry = some next) :
    ∃ result, mergeEntry root entry = .ok result ∧ result.Holds (next.apply settings) := by
  obtain ⟨name, value⟩ := entry
  obtain ⟨setting, hsetting, hvalue⟩ := Option.bind_eq_some_iff.mp hentry
  obtain rfl : setting.table = name := by simpa using List.find?_some hsetting
  cases value with
  | table fields =>
      refine ⟨_, mergeEntry_table root setting fields, Value.Holds.assignAll ?_ hvalue⟩
      -- The table that is merged into holds what it held before, or nothing if it is new.
      intro other
      obtain ⟨old, hold, hgives⟩ := h other
      refine ⟨old, ?_, hgives⟩
      rw [Value.setting?_put]
      by_cases hother : other = setting
      · subst hother
        rw [if_pos rfl]
        obtain ⟨inner, hinner, hold⟩ := Option.bind_eq_some_iff.mp hold
        rw [hinner, Option.getD_some, hold]
      · rw [if_neg hother, hold]
  | null | bool | int | float | str | array => cases hvalue

theorem exists_mergeEntries_of_addTable? {root : Value} {patch next : Patch} {settings : Settings}
    {entries : List (String × Value)} (h : root.Holds (patch.apply settings))
    (hentries : entries.foldlM Patch.addTable? patch = some next) :
    ∃ result, entries.foldlM mergeEntry root = .ok result ∧
      result.Holds (next.apply settings) := by
  induction entries generalizing root patch with
  | nil =>
      obtain rfl : patch = next := by simpa using hentries
      exact ⟨root, rfl, h⟩
  | cons entry entries ih =>
      rw [List.foldlM_cons] at hentries
      obtain ⟨middle, hmiddle, hlater⟩ := Option.bind_eq_some_iff.mp hentries
      obtain ⟨between, hbetween, hholds⟩ := exists_mergeEntry_of_addTable? h hmiddle
      obtain ⟨result, hresult, hholds⟩ := ih hholds hlater
      refine ⟨result, ?_, hholds⟩
      rw [List.foldlM_cons, hbetween]
      exact hresult

theorem exists_mergeFile_of_patch? {root : Value} {patch : Patch} {settings : Settings}
    {required : Bool} {text : Option String} (h : root.Holds settings)
    (hpatch : (Layer.file required text).patch? = some patch) :
    ∃ result, mergeFile root required text = .ok result ∧ result.Holds (patch.apply settings) := by
  cases text with
  | none =>
      simp only [Layer.patch?, Option.ite_none_left_eq_some, Option.some.injEq] at hpatch
      obtain ⟨hoptional, rfl⟩ := hpatch
      exact ⟨root, if_neg hoptional, h⟩
  | some text =>
      obtain ⟨entries, hentries, hpatch⟩ := Option.bind_eq_some_iff.mp hpatch
      have hstart : root.Holds (({} : Patch).apply settings) := h
      obtain ⟨result, hresult, hholds⟩ := exists_mergeEntries_of_addTable? hstart hpatch
      exact ⟨result, by simp only [mergeFile, hentries, hresult], hholds⟩

/-! ### Overrides -/

theorem applyOverride_key (root value : Value) (setting : Setting)
    (h : ∀ entries, value ≠ .table entries) :
    applyOverride root (setting.path, value) =
      .ok (.table (put setting.table (.table (put setting.field value
        ((root.entries.lookup setting.table).getD .null).entries)) root.entries)) := by
  simp only [applyOverride, Setting.path, Path.assign, Value.assignStep, Value.assign_of_ne_table h,
    Setting.lower_table, Setting.lower_field, bind, Except.bind]
  rfl

theorem exists_applyOverride_of_set? {root value : Value} {patch : Patch} {setting : Setting}
    {settings : Settings} (h : root.Holds settings)
    (hset : ({} : Patch).set? setting value = some patch) :
    ∃ result, applyOverride root (setting.path, value) = .ok result ∧
      result.Holds (patch.apply settings) := by
  have hstart : root.Holds (({} : Patch).apply settings) := h
  refine ⟨_, applyOverride_key root value setting (Patch.ne_table_of_set? hset),
    hstart.set? hset ?_ ?_⟩
  · rw [Value.setting?_put, if_pos rfl]
    simp [Value.entries, lookup_put]
  · intro other hother
    rw [Value.setting?_put, if_neg hother]

/-! ### Runs over layers -/

def applyAll (patches : List Patch) (settings : Settings) : Settings :=
  patches.foldl (fun settings patch => patch.apply settings) settings

theorem exists_mergeFiles_of_patches {layers : List Layer}
    (hlayers : ∀ layer ∈ layers, layer.patch?.isSome) {root : Value} {settings : Settings}
    (h : root.Holds settings) :
    ∃ result, mergeFiles layers root = .ok result ∧
      result.Holds (applyAll ((layers.filter Layer.isFile).filterMap Layer.patch?) settings) := by
  induction layers generalizing root settings with
  | nil => exact ⟨root, rfl, h⟩
  | cons layer layers ih =>
      obtain ⟨hlayer, hlater⟩ := List.forall_mem_cons.mp hlayers
      cases layer with
      | override key value => exact ih hlater h
      | file required text =>
          obtain ⟨patch, hpatch⟩ := Option.isSome_iff_exists.mp hlayer
          obtain ⟨next, hnext, hholds⟩ := exists_mergeFile_of_patch? h hpatch
          obtain ⟨result, hresult, hholds⟩ := ih hlater hholds
          refine ⟨result, ?_, ?_⟩
          · rw [mergeFiles, hnext]
            exact hresult
          · rw [List.filter_cons_of_pos rfl, List.filterMap_cons_some hpatch]
            exact hholds

/-! ### Overrides as a map -/

def override (settings : Settings) (change : Setting × Value) : Settings :=
  ((({} : Patch).set? change.1 change.2).getD {}).apply settings

def atPaths (changes : List (Setting × Value)) : List (Path × Value) :=
  changes.map (Prod.map Setting.path id)

/-- At most one value for each setting, and a value of its kind. -/
structure Settled (changes : List (Setting × Value)) : Prop where
  nodup : (changes.map Prod.fst).Nodup
  fits : ∀ change ∈ changes, (({} : Patch).set? change.1 change.2).isSome

theorem Settled.put {changes : List (Setting × Value)} (h : Settled changes) {setting : Setting}
    {value : Value} (hset : (({} : Patch).set? setting value).isSome) :
    Settled (put setting value changes) where
  nodup := nodup_keys_put h.nodup setting value
  fits := by
    intro change hchange
    rcases mem_put hchange with rfl | hold
    · exact hset
    · exact h.fits change hold

/-- Of two values for one setting the second stands. -/
theorem override_override_self {setting : Setting} {value : Value}
    (h : (({} : Patch).set? setting value).isSome) (old : Value) (settings : Settings) :
    override (override settings (setting, old)) (setting, value) =
      override settings (setting, value) := by
  obtain ⟨patch, hpatch⟩ := Option.isSome_iff_exists.mp h
  simp only [override, hpatch, Option.getD_some]
  cases hold : ({} : Patch).set? setting old with
  | none => rfl
  | some earlier =>
      exact (Patch.only_of_set? hpatch).apply_apply (Patch.only_of_set? hold) settings

theorem override_override_comm {first second : Setting × Value} (h : first.1 ≠ second.1)
    (settings : Settings) :
    override (override settings first) second = override (override settings second) first := by
  simp only [override]
  cases hfirst : ({} : Patch).set? first.1 first.2 with
  | none => rfl
  | some patch =>
      cases hsecond : ({} : Patch).set? second.1 second.2 with
      | none => rfl
      | some other =>
          exact (Patch.only_of_set? hsecond).apply_comm (Patch.only_of_set? hfirst) (Ne.symm h)
            settings

/-- A value counts the same in front of the values of other settings and behind them. -/
theorem foldl_override_comm {change : Setting × Value} {changes : List (Setting × Value)}
    (h : change.1 ∉ changes.map Prod.fst) (settings : Settings) :
    changes.foldl override (override settings change) =
      override (changes.foldl override settings) change := by
  induction changes generalizing settings with
  | nil => rfl
  | cons other changes ih =>
      obtain ⟨hother, hlater⟩ := not_or.mp (List.mem_cons.not.mp h)
      rw [List.foldl_cons, List.foldl_cons, override_override_comm hother, ih hlater]

/-- To keep the last value of each setting is to give them all in order. -/
theorem foldl_override_put {changes : List (Setting × Value)}
    (h : (changes.map Prod.fst).Nodup) {setting : Setting} {value : Value}
    (hset : (({} : Patch).set? setting value).isSome) (settings : Settings) :
    (put setting value changes).foldl override settings =
      override (changes.foldl override settings) (setting, value) := by
  induction changes generalizing settings with
  | nil => rfl
  | cons change changes ih =>
      obtain ⟨name, old⟩ := change
      obtain ⟨hnew, hlater⟩ := List.nodup_cons.mp h
      by_cases hname : name = setting
      · subst hname
        -- No later value is of this setting, so the old one and the new one can both stand last.
        have hnew' : (name, value).1 ∉ changes.map Prod.fst := hnew
        rw [put, if_pos rfl, List.foldl_cons, List.foldl_cons, foldl_override_comm hnew,
          foldl_override_comm hnew', override_override_self hset]
      · rw [put, if_neg hname, List.foldl_cons, List.foldl_cons, ih hlater]

theorem exists_applyOverrides {changes : List (Setting × Value)}
    (h : ∀ change ∈ changes, (({} : Patch).set? change.1 change.2).isSome)
    {root : Value} {settings : Settings} (hroot : root.Holds settings) :
    ∃ result, (atPaths changes).foldlM applyOverride root = .ok result ∧
      result.Holds (changes.foldl override settings) := by
  induction changes generalizing root settings with
  | nil => exact ⟨root, rfl, hroot⟩
  | cons change changes ih =>
      obtain ⟨hchange, hlater⟩ := List.forall_mem_cons.mp h
      obtain ⟨patch, hpatch⟩ := Option.isSome_iff_exists.mp hchange
      obtain ⟨next, hnext, hholds⟩ := exists_applyOverride_of_set? hroot hpatch
      have hoverride : patch.apply settings = override settings change := by
        rw [override, hpatch, Option.getD_some]
      rw [hoverride] at hholds
      obtain ⟨result, hresult, hholds⟩ := ih hlater hholds
      refine ⟨result, ?_, hholds⟩
      have hfirst : applyOverride root (change.map Setting.path id) = .ok next := hnext
      rw [atPaths, List.map_cons, List.foldlM_cons, hfirst]
      exact hresult

theorem exists_addOverride_of_patch? {changes : List (Setting × Value)} (h : Settled changes)
    {key : String} {value : Value} {patch : Patch}
    (hpatch : (Layer.override key value).patch? = some patch) :
    ∃ next, addOverride (atPaths changes) (.override key value) = .ok (atPaths next) ∧
      Settled next ∧
      ∀ settings, next.foldl override settings = patch.apply (changes.foldl override settings) := by
  obtain ⟨setting, hsetting, hset⟩ := Option.bind_eq_some_iff.mp hpatch
  obtain rfl : setting.key = key := by simpa using List.find?_some hsetting
  have hfits : (({} : Patch).set? setting value).isSome := by simp [hset]
  refine ⟨put setting value changes, ?_, h.put hfits, ?_⟩
  · rw [addOverride, setting.read?_key, atPaths, atPaths, map_put Setting.path_injective]
  · intro settings
    rw [foldl_override_put h.nodup hfits, override, hset, Option.getD_some]

theorem exists_overrides_of_patches {layers : List Layer}
    (hlayers : ∀ layer ∈ layers, layer.patch?.isSome) :
    ∃ changes, overrides layers = .ok (atPaths changes) ∧ Settled changes ∧
      ∀ settings, changes.foldl override settings =
        applyAll ((layers.filter Layer.isOverride).filterMap Layer.patch?) settings := by
  induction layers using List.reverseRecOn with
  | nil => exact ⟨[], rfl, ⟨List.nodup_nil, by simp⟩, fun _ => rfl⟩
  | append_singleton layers layer ih =>
      obtain ⟨hfront, hlayer⟩ := List.forall_mem_append.mp hlayers
      obtain ⟨changes, hchanges, hsettled, hrun⟩ := ih hfront
      rw [overrides] at hchanges
      rw [overrides, List.foldlM_append, hchanges, List.filter_append, List.filterMap_append]
      cases layer with
      | file required text =>
          exact ⟨changes, rfl, hsettled, by simpa [Layer.isOverride] using hrun⟩
      | override key value =>
          obtain ⟨patch, hpatch⟩ :=
            Option.isSome_iff_exists.mp (hlayer (.override key value) (List.mem_singleton_self _))
          obtain ⟨next, hnext, hsettled, happly⟩ := exists_addOverride_of_patch? hsettled hpatch
          refine ⟨next, ?_, hsettled, ?_⟩
          · simp only [List.foldlM_cons, hnext, bind, Except.bind]
            rfl
          · intro settings
            rw [happly, hrun, applyAll, applyAll, List.foldl_append, List.filter_cons_of_pos rfl,
              List.filterMap_cons_some hpatch]
            rfl

section

variable {α : Type} (get : Settings → α) (field : Patch → Option α)
  (h : ∀ (patch : Patch) settings, get (patch.apply settings) = (field patch).getD (get settings))

include h

/-- A field has the value that it is given last, else the one that it had. -/
theorem applyAll_field (patches : List Patch) (settings : Settings) :
    get (applyAll patches settings) =
      (patches.filterMap field).getLast?.getD (get settings) := by
  unfold applyAll
  induction patches using List.reverseRecOn with
  | nil => rfl
  | append_singleton patches patch ih =>
      rw [List.foldl_append, List.foldl_cons, List.foldl_nil, h, ih, List.filterMap_append]
      cases hfield : field patch with
      | none => simp [hfield]
      | some value => simp [hfield]

theorem applyAll_overrides_files (layers : List Layer) (settings : Settings) :
    get (applyAll ((layers.filter Layer.isOverride).filterMap Layer.patch?)
      (applyAll ((layers.filter Layer.isFile).filterMap Layer.patch?) settings)) =
      (Layer.decided? field layers).getD (get settings) := by
  rw [applyAll_field get field h, applyAll_field get field h, Layer.decided?, Option.getD_or]
  rfl

end

/-! ### The outcome -/

/-- Layers that keep to the known settings always load. Each setting has the value of the last
override that gives it, else that of the last file that does, else the built-in one. -/
theorem load_of_patches (layers : List Layer) (h : ∀ layer ∈ layers, layer.patch?.isSome) :
    load layers = .ok
      { documentSchemes :=
          (Layer.decided? Patch.documentSchemes layers).getD builtIn.documentSchemes
        valueSpan := (Layer.decided? Patch.valueSpan layers).getD builtIn.valueSpan
        filter := (Layer.decided? Patch.filter layers).getD builtIn.filter } := by
  obtain ⟨changes, hchanges, hsettled, hrun⟩ := exists_overrides_of_patches h
  obtain ⟨merged, hmerged, hfiles⟩ := exists_mergeFiles_of_patches h holds_defaults
  obtain ⟨root, hroot, hholds⟩ := exists_applyOverrides hsettled.fits hfiles
  have hload : load layers = root.toSettings := by
    simp only [load, hchanges, hmerged, hroot, bind, Except.bind]
  rw [hload, hholds.toSettings, hrun,
    ← applyAll_overrides_files Settings.documentSchemes Patch.documentSchemes (fun _ _ => rfl),
    ← applyAll_overrides_files Settings.valueSpan Patch.valueSpan (fun _ _ => rfl),
    ← applyAll_overrides_files Settings.filter Patch.filter (fun _ _ => rfl)]

/-- The second file replaces one setting of the first and keeps the other. The override in front
of both still decides. -/
theorem load_of_override_before_files : ∃ layers : List Layer,
    layers = [.override "logging.filter" (.str "warn"),
      .file true (some "[server]\ndocument_schemes = ['a']\n[logging]\nfilter = ''"),
      .file false none,
      .file false (some "logging.filter = 'x'\nhighlighting.value_span = 'Structural'")] ∧
    (∀ layer ∈ layers, layer.patch?.isSome) ∧
    load layers = .ok ⟨["a"], .structural, "warn"⟩ := by
  refine ⟨_, rfl, by decide +kernel, ?_⟩
  rw [load_of_patches _ (by decide +kernel)]
  decide +kernel

end Config

end Layerfile
