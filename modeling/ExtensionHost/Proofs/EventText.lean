import ExtensionHost.Event
import ExtensionHost.Proofs.ErrorText
import ExtensionHost.Proofs.Roots

/-!
# Events come back from their text

The JSON text of an event is read as that event, but for the folder of its description. An event
holds the folder twice, and the description is written without it. So what is read has the folder
beside the description only, and from there the event can be put together again.
-/

namespace ExtensionHost

variable {d : Descriptor} {change : Change}

/-! ## Descriptions -/

/-- The priorities take up no more than four bytes each. -/
structure Descriptor.Fits (d : Descriptor) : Prop where
  priority : -2147483648 ≤ d.priority ∧ d.priority ≤ 2147483647
  startPriority : -2147483648 ≤ d.startPriority ∧ d.startPriority ≤ 2147483647

/-- The description without its folder, which is all that is written of it. -/
def Descriptor.written (d : Descriptor) : Descriptor :=
  { d with folder := ⟨""⟩ }

theorem int32?_int {n : Int} (h : -2147483648 ≤ n ∧ n ≤ 2147483647) :
    Document.int32? (Json.int n) = some n := by
  simp [Document.int32?, Document.signed?, h]

theorem optionalText?_optText (s : Option String) :
    Document.optionalText? (Json.optText s) = some s := by
  cases s <;> rfl

/-- A description is read back from its JSON, without the folder. -/
theorem Descriptor.read?_toJson (h : d.Fits) : Descriptor.read? d.toJson = some d.written := by
  unfold Descriptor.read? toJson
  rw [Record.read?_object (by simp [fieldName?, fieldNames]) (by simp)]
  simp [Record.required, Record.optional, List.lookup_cons, text?_text, optionalText?_optText,
    int32?_int h.priority, int32?_int h.startPriority, written]

theorem Descriptor.isPlain_toJson (d : Descriptor) : d.toJson.IsPlain := by
  have hauthor : (Json.optText d.author).IsPlain := by
    cases d.author with
    | none => exact .null
    | some author => exact .text author
  apply Json.IsPlain.object
  simp [hauthor, Json.IsPlain.text, Json.IsPlain.int]

/-! ## Events -/

theorem Change.read?_name (change : Change) :
    Change.read? (Json.text change.name) = some change := by
  have hchoice : Document.choice? (Change.all.map Change.name) (Json.text change.name) =
      some change.name := by
    cases change <;> rfl
  simp [Change.read?, hchoice]

theorem Event.read?_toJson (e : Event) (h : e.descriptor.Fits) :
    Event.read? e.toJson = some { e with descriptor := e.descriptor.written } := by
  unfold Event.read? toJson
  rw [Record.read?_object (by simp [fieldName?]) (by simp)]
  simp [Record.required, List.lookup_cons, Change.read?_name, Descriptor.read?_toJson h,
    text?_text]

theorem Event.isPlain_toJson (e : Event) : e.toJson.IsPlain := by
  apply Json.IsPlain.object
  simp [Json.IsPlain.text, e.descriptor.isPlain_toJson]

/-! ## Text -/

/-- The event that is read from the text of another one. -/
def Event.reread? (e : Event) : Option Event :=
  (Json.parse e.toJson.compact).bind Event.read?

theorem Event.reread?_eq (e : Event) (h : e.descriptor.Fits) :
    e.reread? = some { e with descriptor := e.descriptor.written } := by
  rw [reread?, Json.parse_compact e.isPlain_toJson, Option.bind_some, read?_toJson e h]

/-- What is written of a description and its folder make up the description. -/
theorem Descriptor.eq_of_written {d' : Descriptor} (h : d.written = d'.written)
    (hfolder : d.folder = d'.folder) : d = d' := by
  have hwhole (d : Descriptor) : d = { d.written with folder := d.folder } := rfl
  rw [hwhole d, hwhole d', h, hfolder]

theorem Descriptor.written_eq_iff : d.written = d ↔ d.folder = ⟨""⟩ := by
  constructor
  · intro h
    rw [← h]
    rfl
  · intro h
    exact eq_of_written rfl h.symm

/-- The text of an event says all of it. What is read from it is the event, except that the
description has lost its folder, and so it is the event that was written exactly if there was no
folder to lose. The event itself keeps the folder. Hence the two folders that are read are one
path exactly if that path is empty. No other event with the folder of its description has the
text. -/
theorem Event.text_tells_event (change : Change) (d : Descriptor) (h : d.Fits) :
    (Event.of change d).reread? = some ⟨change, { d with folder := ⟨""⟩ }, d.folder⟩ ∧
      ((Event.of change d).reread? = some (Event.of change d) ↔ d.folder = ⟨""⟩) ∧
      (∀ e, (Event.of change d).reread? = some e →
        (e.folder.components = e.descriptor.folder.components ↔ d.folder = ⟨""⟩)) ∧
      ∀ change' d', d'.Fits →
        (Event.of change' d').toJson.compact = (Event.of change d).toJson.compact →
        Event.of change' d' = Event.of change d := by
  have hread := reread?_eq (Event.of change d) h
  refine ⟨hread, ?_, ?_, ?_⟩
  · rw [hread, ← Descriptor.written_eq_iff]
    simp [Event.of]
  · intro e he
    obtain rfl := Option.some.inj (hread.symm.trans he)
    exact Path.components_eq_nil_iff
  · intro change' d' h' htext
    -- One text is read as one event, and that has the folder and all else of the description.
    have hread' := reread?_eq (Event.of change' d') h'
    rw [reread?, htext] at hread'
    obtain ⟨hchange, hwritten, hfolder⟩ := Event.mk.inj (Option.some.inj (hread'.symm.trans hread))
    have hdescriptor : d' = d := Descriptor.eq_of_written hwritten hfolder
    rw [hdescriptor]
    exact congrArg (Event.of · d) hchange

/-- An extension that declares all there is to declare, in a folder with a quote and a letter beyond
ASCII in its name, and the bounds of its priorities reached. -/
theorem Event.text_tells_event_update :
    let d : Descriptor :=
      { id := "echo", name := "Echo", version := "1.2.0", author := some "Ada",
        priority := -2147483648, startPriority := 2147483647, entryPoint := "echo::Echo",
        folder := ⟨"/srv/\"é\"/echo"⟩ }
    d.Fits ∧
      (Event.of .update d).reread? = some ⟨.update, { d with folder := ⟨""⟩ }, d.folder⟩ := by
  intro d
  have hfits : d.Fits := ⟨by decide, by decide⟩
  exact ⟨hfits, (Event.text_tells_event .update d hfits).1⟩

/-- What is read from the text of an event is another event, with two folders that differ. -/
theorem Event.text_loses_folder :
    let e := Event.of .remove { Descriptor.ofId "echo" with folder := ⟨"/srv/extensions/echo"⟩ }
    e.descriptor.toJson.compact =
      "\x7b\"id\":\"echo\",\"name\":\"echo\",\"version\":\"0.0.0\",\"author\":null," ++
        "\"priority\":0,\"start_priority\":0,\"entry_point\":\"\"\x7d" ∧
      e.reread? ≠ some e ∧
      e.reread?.map (fun e' => (e'.folder, e'.descriptor.folder)) =
        some (⟨"/srv/extensions/echo"⟩, ⟨""⟩) ∧
      (Path.mk "/srv/extensions/echo").components ≠ (Path.mk "").components := by
  decide +kernel

end ExtensionHost
