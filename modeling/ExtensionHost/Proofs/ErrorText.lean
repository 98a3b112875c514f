import ExtensionHost.Error.Codec
import ExtensionHost.Proofs.JsonText

/-!
# Errors come back from their text

The JSON text of an error is read as the error it was written from. The phase stands
beside its details, the kind of error around its fields; the fields hold texts, lists of
texts and numbers of eight bytes. One law covers the fields of every kind: an object
whose members are the fields, each once, is read as a record with just these members.
-/

namespace ExtensionHost

/-! ## Fields -/

/-- A name is the first name of the field it names. -/
theorem fieldName?_of_mem {names : List String} {name : String} (h : name ∈ names) :
    fieldName? (names.map ([·])) name = some name := by
  induction names with
  | nil => simp at h
  | cons n names ih =>
    by_cases hn : n = name
    · simp [fieldName?, hn]
    · have htail : name ∈ names := by
        rcases List.mem_cons.mp h with rfl | h
        · exact absurd rfl hn
        · exact h
      have hne : name ≠ n := Ne.symm hn
      simpa [fieldName?, hne] using ih htail

/-- Members under the first names of fields are all recognised. -/
theorem recognised_of_first {fields : List (List String)} {members : List (String × Json)}
    (h : ∀ m ∈ members, fieldName? fields m.1 = some m.1) :
    recognised fields members = members := by
  induction members with
  | nil => rfl
  | cons m members ih =>
    have hm := h m (by simp)
    have hrest := ih fun m' hm' => h m' (by simp [hm'])
    simp only [recognised] at hrest ⊢
    simp [hm, hrest]

/-- Members with names of their own are distinct. -/
theorem distinctNames_of_nodup {members : List (String × Json)}
    (h : (members.map (·.1)).Nodup) : distinctNames members = true := by
  induction members with
  | nil => rfl
  | cons m members ih =>
    obtain ⟨hnew, hrest⟩ := List.nodup_cons.mp h
    have hfree : ∀ m' ∈ members, m'.1 ≠ m.1 := by
      intro m' hm' heq
      exact hnew (List.mem_map.mpr ⟨m', hm', heq⟩)
    simp only [distinctNames, ih hrest, Bool.and_true, Bool.not_eq_true', List.any_eq_false,
      beq_iff_eq]
    exact hfree

/-- An object whose members are fields under their first names, each at most once, is the record
with these members. -/
theorem Record.read?_object {fields : List (List String)} {members : List (String × Json)}
    (hfirst : ∀ m ∈ members, fieldName? fields m.1 = some m.1)
    (hdistinct : (members.map (·.1)).Nodup) :
    Record.read? fields (.object members) = some ⟨members⟩ := by
  simp [Record.read?, Document.positional?, Document.members?, recognised_of_first hfirst,
    distinctNames_of_nodup hdistinct]

/-- An object whose members are the fields, in order and each once, is the record with
these members. -/
theorem errorFields?_object {names : List String} {members : List (String × Json)}
    (hnames : members.map (·.1) = names) (hdistinct : names.Nodup) :
    errorFields? names (.object members) = some ⟨members⟩ := by
  subst hnames
  exact Record.read?_object (fun m hm => fieldName?_of_mem (List.mem_map_of_mem hm)) hdistinct

theorem text?_text (s : String) : Document.text? (Json.text s) = some s := rfl

/-- A list of texts is read back. -/
theorem texts?_texts (items : List String) : Document.texts? (Json.texts items) = some items := by
  have hall : (items.map Json.text).mapM (Document.text? (ν := Json)) = some items := by
    induction items with
    | nil => rfl
    | cons s items ih => simp [ih, text?_text]
  simpa [Document.texts?, Json.texts, Document.items?] using hall

/-- A number of eight bytes is read back. -/
theorem nat64?_nat {n : Nat} (h : n < UInt64.size) : Document.nat64? (Json.nat n) = some n := by
  have hmax : n ≤ 18446744073709551615 := by
    simp only [UInt64.size] at h
    omega
  have hint : (n : Int) ≤ 18446744073709551615 := by omega
  simp [Document.nat64?, Json.nat, Document.unsigned?, hint]

/-! ## Each kind of error

Each kind is read back from its tagged object, and by that from every object it stands in. -/

theorem DiscoveryError.ofJson?_toJson (e : DiscoveryError) :
    DiscoveryError.ofJson? e.toJson = some e := by
  cases e <;>
    simp [DiscoveryError.toJson, DiscoveryError.ofJson?, taggedJson, tagged?, DiscoveryError.kind,
      DiscoveryError.fields, errorFields?_object, Record.text?, Record.required, text?_text,
      List.lookup_cons]

/-- A problem in loading artifacts is read back, with the problem it comes from. -/
theorem LoadError.ofJson?_toJson (e : LoadError) : LoadError.ofJson? e.toJson = some e := by
  cases e <;>
    simp [LoadError.toJson, LoadError.ofJson?, taggedJson, tagged?, LoadError.kind,
      LoadError.fields, errorFields?_object, Record.text?, Record.required, text?_text,
      texts?_texts, DiscoveryError.ofJson?_toJson, List.lookup_cons]

theorem InstantiationError.ofJson?_toJson (e : InstantiationError) :
    InstantiationError.ofJson? e.toJson = some e := by
  cases e <;>
    simp [InstantiationError.toJson, InstantiationError.ofJson?, taggedJson, tagged?,
      InstantiationError.kind, InstantiationError.fields, errorFields?_object, Record.text?,
      Record.required, text?_text, List.lookup_cons]

/-- The numbers that an error of life reports. -/
def LifecycleError.numbers : LifecycleError → List Nat
  | .timeout _ _ timeoutMs => [timeoutMs]
  | _ => []

theorem LifecycleError.ofJson?_toJson {e : LifecycleError}
    (h : ∀ n ∈ e.numbers, n < UInt64.size) : LifecycleError.ofJson? e.toJson = some e := by
  cases e
  -- only this one reports a number, which has to fit
  case timeout id operation timeoutMs =>
    have hms := nat64?_nat (h timeoutMs (by simp [LifecycleError.numbers]))
    simp [LifecycleError.toJson, LifecycleError.ofJson?, taggedJson, tagged?, LifecycleError.kind,
      LifecycleError.fields, errorFields?_object, Record.text?, Record.required, text?_text,
      hms, List.lookup_cons]
  all_goals
    simp [LifecycleError.toJson, LifecycleError.ofJson?, taggedJson, tagged?, LifecycleError.kind,
      LifecycleError.fields, reasonedError?, errorFields?_object, Record.text?, Record.required,
      text?_text, List.lookup_cons]

/-- The numbers that an error of a drain reports. -/
def DrainError.numbers : DrainError → List Nat
  | .timeout _ timeoutMs pending => [timeoutMs, pending]
  | .hookFailed .. => []
  | .allTimeout timeoutMs => [timeoutMs]

theorem DrainError.ofJson?_toJson {e : DrainError} (h : ∀ n ∈ e.numbers, n < UInt64.size) :
    DrainError.ofJson? e.toJson = some e := by
  have hnumber := fun n hn => nat64?_nat (h n hn)
  cases e <;>
    simp_all [DrainError.toJson, DrainError.ofJson?, taggedJson, tagged?, DrainError.kind,
      DrainError.fields, DrainError.numbers, errorFields?_object, Record.text?, Record.required,
      text?_text, List.lookup_cons]

theorem ConfigError.ofJson?_toJson (e : ConfigError) : ConfigError.ofJson? e.toJson = some e := by
  cases e <;>
    simp [ConfigError.toJson, ConfigError.ofJson?, taggedJson, tagged?, ConfigError.kind,
      ConfigError.fields, errorFields?_object, Record.text?, Record.required, text?_text,
      List.lookup_cons]

/-! ## All errors -/

/-- The numbers that an error reports. -/
def HostError.numbers : HostError → List Nat
  | .lifecycle e => e.numbers
  | .drain e => e.numbers
  | _ => []

/-- The numbers that the error reports take up no more than eight bytes each. -/
def HostError.Fits (e : HostError) : Prop :=
  ∀ n ∈ e.numbers, n < UInt64.size

instance (e : HostError) : Decidable e.Fits :=
  inferInstanceAs (Decidable (∀ n ∈ e.numbers, n < UInt64.size))

/-- The details of an error are read back under its phase. -/
theorem HostError.ofDetails?_details {e : HostError} (h : e.Fits) :
    HostError.ofDetails? e.phase e.details = some e := by
  cases e with
  | discovery e => simp [HostError.ofDetails?, phase, details, DiscoveryError.ofJson?_toJson]
  | load e => simp [HostError.ofDetails?, phase, details, LoadError.ofJson?_toJson]
  | instantiation e =>
    simp [HostError.ofDetails?, phase, details, InstantiationError.ofJson?_toJson]
  | lifecycle e => simp [HostError.ofDetails?, phase, details, LifecycleError.ofJson?_toJson h]
  | drain e => simp [HostError.ofDetails?, phase, details, DrainError.ofJson?_toJson h]
  | config e => simp [HostError.ofDetails?, phase, details, ConfigError.ofJson?_toJson]
  | internal text => simp [HostError.ofDetails?, phase, details, text?_text]

/-- The phase of an error is one of the names a reader takes for a phase. -/
theorem HostError.phase_mem_phases (e : HostError) : e.phase ∈ HostError.phases := by
  cases e <;> simp [phase, phases]

/-- An error is read back from its JSON. -/
theorem HostError.ofJson?_toJson {e : HostError} (h : e.Fits) :
    HostError.ofJson? e.toJson = some e := by
  have hphase : Document.choice? HostError.phases (Json.text e.phase) = some e.phase := by
    simp [Document.choice?, e.phase_mem_phases]
  simp [HostError.ofJson?, HostError.toJson, errorFields?_object, Record.required, List.lookup_cons,
    hphase, readableDetails, HostError.ofDetails?_details h]

/-! ## Text -/

/-- A tag around a plain body is plain. -/
theorem isPlain_taggedJson {tag : String} {members : List (String × Json)}
    (h : ∀ m ∈ members, m.2.IsPlain) : (taggedJson tag (.object members)).IsPlain := by
  refine .object fun m hm => ?_
  obtain rfl := List.mem_singleton.mp hm
  exact .object h

/-- A list of texts is plain. -/
theorem isPlain_texts (items : List String) : (Json.texts items).IsPlain := by
  refine .array fun v hv => ?_
  obtain ⟨s, _, rfl⟩ := List.mem_map.mp hv
  exact .text s

theorem DiscoveryError.isPlain_toJson (e : DiscoveryError) : e.toJson.IsPlain := by
  apply isPlain_taggedJson
  cases e <;> simp [fields, Json.IsPlain.text]

theorem LoadError.isPlain_toJson (e : LoadError) : e.toJson.IsPlain := by
  apply isPlain_taggedJson
  cases e <;> simp [fields, Json.IsPlain.text, isPlain_texts, DiscoveryError.isPlain_toJson]

theorem InstantiationError.isPlain_toJson (e : InstantiationError) : e.toJson.IsPlain := by
  apply isPlain_taggedJson
  cases e <;> simp [fields, Json.IsPlain.text]

theorem LifecycleError.isPlain_toJson (e : LifecycleError) : e.toJson.IsPlain := by
  apply isPlain_taggedJson
  cases e <;> simp [fields, Json.IsPlain.text, Json.IsPlain.int, Json.nat]

theorem DrainError.isPlain_toJson (e : DrainError) : e.toJson.IsPlain := by
  apply isPlain_taggedJson
  cases e <;> simp [fields, Json.IsPlain.text, Json.IsPlain.int, Json.nat]

theorem ConfigError.isPlain_toJson (e : ConfigError) : e.toJson.IsPlain := by
  apply isPlain_taggedJson
  cases e <;> simp [fields, Json.IsPlain.text]

/-- The JSON of every error is plain. -/
theorem HostError.isPlain_toJson (e : HostError) : e.toJson.IsPlain := by
  have hdetails : e.details.IsPlain := by
    cases e with
    | discovery e => exact e.isPlain_toJson
    | load e => exact e.isPlain_toJson
    | instantiation e => exact e.isPlain_toJson
    | lifecycle e => exact e.isPlain_toJson
    | drain e => exact e.isPlain_toJson
    | config e => exact e.isPlain_toJson
    | internal text => exact .text text
  apply Json.IsPlain.object
  simp [Json.IsPlain.text, hdetails]

/-- An error is read back from its text. -/
theorem HostError.parse_compact {e : HostError} (h : e.Fits) :
    HostError.parse e.toJson.compact = some e := by
  rw [HostError.parse, Json.parse_compact e.isPlain_toJson, Option.bind_some,
    HostError.ofJson?_toJson h]

/-- The text of an error says all of it. It is the text of an object with the phase in
front and the details behind; what is read from it is the error it was written from,
with its wording, the extension it names and whether it says that the extension is not
registered; and no other error has that text. -/
theorem HostError.text_tells_error (e : HostError) (h : e.Fits) :
    Json.parse e.toJson.compact =
        some (.object [("type", .text e.phase), ("details", e.details)]) ∧
      HostError.parse e.toJson.compact = some e ∧
      (∀ e', HostError.parse e.toJson.compact = some e' →
        e'.message = e.message ∧ e'.extensionId? = e.extensionId? ∧
          e'.isNotFound = e.isNotFound) ∧
      ∀ e' : HostError, e'.Fits → e'.toJson.compact = e.toJson.compact → e' = e := by
  have hparse := HostError.parse_compact h
  refine ⟨Json.parse_compact e.isPlain_toJson, hparse, ?_, ?_⟩
  · intro e' he'
    obtain rfl := Option.some.inj (hparse.symm.trans he')
    exact ⟨rfl, rfl, rfl⟩
  · intro e' hfits htext
    have hparse' := HostError.parse_compact hfits
    rw [htext, hparse] at hparse'
    exact (Option.some.inj hparse').symm

/-- The largest numbers, with a quote, a backslash, a control character and a letter
beyond ASCII in the name. -/
theorem HostError.text_tells_error_drainTimeout :
    let e : HostError := .drain (.timeout "a\"\\\x01é" 18446744073709551615 3)
    e.Fits ∧
      e.toJson.compact =
        "\x7b\"type\":\"Shutdown\",\"details\":\x7b\"Timeout\":\x7b\"extension_id\":" ++
          "\"a\\\"\\\\\\u0001é\",\"timeout_ms\":18446744073709551615,\"pending\":3\x7d\x7d\x7d" ∧
      HostError.parse e.toJson.compact = some e := by
  intro e
  have hfits : e.Fits := by decide
  exact ⟨hfits, by decide +kernel, (HostError.text_tells_error e hfits).2.1⟩

end ExtensionHost
