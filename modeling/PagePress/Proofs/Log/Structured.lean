import PagePress.Log.Structured
import PagePress.Proofs.Json.RoundTrip

/-!
# Structured lines are faithful

Whatever is told by a record, its structured line is one line of printable ASCII, and reading the
line gives back all that was told and nothing else: what stands in a message or in a field cannot be
taken for a further field, nor for a further line.
-/

namespace PagePress

namespace Contexts

/-- The value that the innermost context with such a field has for it. -/
def innermost (contexts : Contexts) (name : LooseText) : Option Json :=
  contexts.reverse.findSome? (·.get? name)

theorem innermost_cons (fields : Fields) (contexts : Contexts) (name : LooseText) :
    innermost (fields :: contexts) name = (innermost contexts name).or (fields.get? name) := by
  simp [innermost, List.findSome?_append]

/-- The innermost context has the last word on an attribute. -/
theorem get?_foldl_merge {contexts : Contexts} (once : ∀ fields ∈ contexts, fields.IsDistinct)
    (plain : Fields) (name : LooseText) :
    (contexts.foldl Fields.merge plain).get? name =
      (innermost contexts name).or (plain.get? name) := by
  induction contexts generalizing plain with
  | nil => rfl
  | cons fields contexts ih =>
    obtain ⟨here, later⟩ := List.forall_mem_cons.mp once
    rw [List.foldl_cons, ih later, Fields.get?_merge here, innermost_cons, Option.or_assoc]

theorem innermost_eq_none {contexts : Contexts} {name : LooseText}
    (absent : ∀ fields ∈ contexts, name ∉ fields.map (·.1)) : innermost contexts name = none := by
  rw [innermost, List.findSome?_eq_none_iff]
  intro fields mem
  exact Fields.get?_eq_none_iff.mpr (absent fields (List.mem_reverse.mp mem))

end Contexts

namespace LogRecord

/-- The names that the attributes of a record have on its own account. A context must not have a
field of such a name. -/
def ownAttributes : List LooseText :=
  ["name", "levelname", "msg", "args", "module", "funcName", "lineno", "exc_info", "getMessage",
   "__class__", "__dict__", "__weakref__", "extra_fields"]

def sourceFields (timestamp : String) (source : LogSource) : Fields :=
  [("timestamp", .str timestamp), ("level", .str source.level),
   ("logger", .str (loggerName source.logger)), ("message", .str source.message),
   ("module", .str source.module), ("function", .str source.function), ("line", .int source.line)]

def contextFields (contexts : Contexts) : Fields :=
  requestAttributes.filterMap fun name => (contexts.innermost name).map fun value => (name, value)

def toldFields (timestamp : String) (contexts : Contexts) (source : LogSource)
    (extra : Option Fields) (failure : Option String) : Fields :=
  ((sourceFields timestamp source ++ contextFields contexts).override (extra.getD [])).override
    (failure.elim [] failureFields)

variable {timestamp : String} {contexts : Contexts} {source : LogSource} {extra : Option Fields}
  {failure : Option String}

/-- The contexts leave the record its own attributes. -/
structure Spares (contexts : Contexts) : Prop where
  once : ∀ fields ∈ contexts, fields.IsDistinct
  own : ∀ fields ∈ contexts, ∀ field ∈ fields, field.1 ∉ ownAttributes

theorem Spares.innermost_eq_none (spares : Spares contexts) {name : LooseText}
    (own : name ∈ ownAttributes) : contexts.innermost name = none := by
  refine Contexts.innermost_eq_none fun fields mem named => ?_
  obtain ⟨field, hfield, rfl⟩ := List.mem_map.mp named
  exact spares.own fields mem field hfield own

theorem Spares.get?_stamp (spares : Spares contexts) (name : LooseText) :
    (stamp contexts source failure).attributes.get? name =
      (contexts.innermost name).or ((plainAttributes source).get? name) :=
  Contexts.get?_foldl_merge spares.once _ name

/-- What a record made under the contexts holds. -/
structure Tells (record : LogRecord) (contexts : Contexts) (source : LogSource)
    (extra : Option Fields) (failure : Option String) : Prop where
  own : ∀ name ∈ ownAttributes, name ≠ "extra_fields" →
    record.attributes.get? name = (plainAttributes source).get? name
  request : ∀ name ∈ requestAttributes, record.attributes.get? name = contexts.innermost name
  extra : record.attributes.get? "extra_fields" = extra.map .obj
  failure : record.failure = failure

theorem Spares.tells_stamp (spares : Spares contexts) :
    (stamp contexts source failure).Tells contexts source none failure where
  own name own _ := by rw [spares.get?_stamp, spares.innermost_eq_none own, Option.none_or]
  request name request := by
    have other : (plainAttributes source).get? name = none := by
      have apart : ∀ name ∈ requestAttributes,
          name ∉ (["name", "levelname", "msg", "module", "funcName", "lineno"] :
            List LooseText) := by decide
      exact Fields.get?_eq_none_iff.mpr (apart name request)
    rw [spares.get?_stamp, other, Option.or_none]
  extra := by
    rw [spares.get?_stamp, spares.innermost_eq_none (by decide)]
    rfl
  failure := rfl

/-- Extra fields are put beside what a record tells. -/
theorem Tells.withExtraFields {record : LogRecord} {fields : Fields}
    (tells : record.Tells contexts source none failure) :
    ∃ record', record.withExtraFields fields = .ok record' ∧
      record'.Tells contexts source (some fields) failure := by
  refine ⟨{ record with attributes := record.attributes.set "extra_fields" (.obj fields) }, ?_, ?_⟩
  · rw [LogRecord.withExtraFields, tells.extra]
    rfl
  · have kept : ∀ name : LooseText, name ≠ "extra_fields" →
        (record.attributes.set "extra_fields" (.obj fields)).get? name =
          record.attributes.get? name := fun name other => by
      rw [Fields.get?_set, if_neg other]
    refine ⟨fun name own other => ?_, fun name request => ?_, ?_, tells.failure⟩
    · rw [kept name other]
      exact tells.own name own other
    · have apart : ∀ name ∈ requestAttributes, name ≠ "extra_fields" := by decide
      rw [kept name (apart name request)]
      exact tells.request name request
    · rw [Fields.get?_set, if_pos rfl]
      rfl

theorem Spares.fault?_eq_none (spares : Spares contexts)
    (untaken : ∀ fields ∈ contexts, ∀ field ∈ fields, field.1 ≠ Contexts.takenName) :
    contexts.fault? = none := by
  have other : ∀ fields ∈ contexts, fields.findSome? Contexts.stampFault? = none := by
    intro fields mem
    rw [List.findSome?_eq_none_iff]
    intro field hfield
    have own := spares.own fields mem field hfield
    have ne : ∀ name ∈ ownAttributes, field.1 ≠ name := fun name known same => own (same ▸ known)
    simp [Contexts.stampFault?, ne "__class__" (by decide), ne "__weakref__" (by decide),
      ne "__dict__" (by decide)]
  have enterable : (contexts.any fun fields => fields.any fun field =>
      field.1 = Contexts.takenName) = false := by
    refine List.any_eq_false.mpr fun fields mem => ?_
    rw [List.any_eq_true]
    rintro ⟨field, hfield, same⟩
    exact untaken fields mem field hfield (of_decide_eq_true same)
  rw [Contexts.fault?, enterable, if_neg Bool.false_ne_true, List.findSome?_eq_none_iff]
  exact other

/-- Under contexts that can be entered, a record is made. -/
theorem Spares.exists_make (spares : Spares contexts)
    (untaken : ∀ fields ∈ contexts, ∀ field ∈ fields, field.1 ≠ Contexts.takenName) :
    ∃ record, make contexts source extra failure = .ok record ∧
      record.Tells contexts source extra failure := by
  unfold make
  rw [spares.fault?_eq_none untaken]
  cases extra with
  | none => exact ⟨_, rfl, spares.tells_stamp⟩
  | some fields => exact spares.tells_stamp.withExtraFields

namespace Tells

variable {record : LogRecord} (tells : record.Tells contexts source extra failure)
include tells

theorem value_eq {name : LooseText} (own : name ∈ ownAttributes) (other : name ≠ "extra_fields") :
    record.value name = ((plainAttributes source).get? name).getD .null := by
  rw [value, tells.own name own other]

theorem message_eq : record.message = .ok source.message := by
  have text : record.value "msg" = .str source.message :=
    tells.value_eq (by decide) (by decide)
  have values : record.value "args" = .null := tells.value_eq (by decide) (by decide)
  have method : record.attributes.get? messageAttribute = none :=
    tells.own _ (by decide) (by decide)
  simp only [message, text, values, method]
  rfl

theorem baseFields_eq :
    record.baseFields timestamp source.message = sourceFields timestamp source := by
  have level : record.value "levelname" = .str source.level :=
    tells.value_eq (by decide) (by decide)
  have logger : record.value "name" = .str (loggerName source.logger) :=
    tells.value_eq (by decide) (by decide)
  have module : record.value "module" = .str source.module :=
    tells.value_eq (by decide) (by decide)
  have function : record.value "funcName" = .str source.function :=
    tells.value_eq (by decide) (by decide)
  have line : record.value "lineno" = .int source.line := tells.value_eq (by decide) (by decide)
  rw [baseFields, level, logger, module, function, line]
  rfl

theorem requestFields_eq : record.requestFields = contextFields contexts := by
  refine List.filterMap_congr fun name mem => ?_
  rw [tells.request name mem]

theorem withExtra_eq (fields : Fields) :
    record.withExtra fields = .ok (fields.merge (extra.getD [])) := by
  rw [withExtra, tells.extra]
  cases extra with
  | none => rfl
  | some extra => rfl

theorem failureTold_eq : record.failureTold = .ok (failure.elim [] failureFields) := by
  have none : record.attributes.get? "exc_info" = none := tells.own _ (by decide) (by decide)
  rw [failureTold, none, tells.failure]

theorem structuredFields_eq : record.structuredFields timestamp =
    .ok (((sourceFields timestamp source ++ contextFields contexts).merge (extra.getD [])).merge
      (failure.elim [] failureFields)) := by
  rw [structuredFields, tells.message_eq]
  simp only [bind, Except.bind, tells.baseFields_eq, tells.requestFields_eq, tells.withExtra_eq,
    tells.failureTold_eq]
  rfl

end Tells

/-! ## What a line says -/

theorem contextFields_names (contexts : Contexts) :
    (contextFields contexts).map (·.1) =
      requestAttributes.filter fun name => (contexts.innermost name).isSome := by
  unfold contextFields
  induction requestAttributes with
  | nil => rfl
  | cons name names ih =>
    cases found : contexts.innermost name with
    | none => simp [found, ih]
    | some value => simp [found, ih]

theorem isDistinct_told (timestamp : String) (source : LogSource) (contexts : Contexts) :
    Fields.IsDistinct (sourceFields timestamp source ++ contextFields contexts) := by
  have all : ((["timestamp", "level", "logger", "message", "module", "function", "line"] :
      List LooseText) ++ requestAttributes).Nodup := by decide
  unfold Fields.IsDistinct
  rw [List.map_append, contextFields_names]
  exact all.sublist ((List.Sublist.refl _).append List.filter_sublist)

theorem isDistinct_failure (failure : Option String) :
    Fields.IsDistinct (failure.elim [] failureFields) := by
  cases failure with
  | none => exact List.nodup_nil
  | some message => exact List.nodup_singleton _

theorem isDistinct_getD (once : ∀ fields ∈ extra, fields.IsDistinct) :
    (extra.getD []).IsDistinct := by
  cases extra with
  | none => exact List.nodup_nil
  | some fields => exact once fields rfl

theorem Tells.structuredFields_told {record : LogRecord}
    (tells : record.Tells contexts source extra failure)
    (once : ∀ fields ∈ extra, fields.IsDistinct) :
    record.structuredFields timestamp =
      .ok (toldFields timestamp contexts source extra failure) := by
  have distinct := isDistinct_told timestamp source contexts
  have extraOnce := isDistinct_getD once
  rw [tells.structuredFields_eq, Fields.merge_eq_override distinct extraOnce,
    Fields.merge_eq_override (distinct.override extraOnce) (isDistinct_failure failure)]
  rfl

theorem Tells.structuredLine_told {record : LogRecord}
    (tells : record.Tells contexts source extra failure)
    (once : ∀ fields ∈ extra, fields.IsDistinct) :
    record.structuredLine timestamp =
      .ok (Json.obj (toldFields timestamp contexts source extra failure)).text := by
  rw [structuredLine, tells.structuredFields_told once]
  rfl

theorem isPlain_sourceFields (timestamp : String)
    (line : (Decimal.digits source.line).length ≤ Decimal.maxDigits) :
    (sourceFields timestamp source).IsPlain 100 := by
  have text : ∀ s : String, (LooseText.ofString s).isWhole = true := fun s =>
    LooseText.isWhole_ofList s.toList
  simp [Fields.IsPlain, sourceFields, Json.isPlain, text, line]

theorem isPlain_contextFields (plain : ∀ fields ∈ contexts, Fields.IsPlain 100 fields) :
    (contextFields contexts).IsPlain 100 := by
  intro field mem
  obtain ⟨name, known, made⟩ := List.mem_filterMap.mp mem
  obtain ⟨value, found, rfl⟩ := Option.map_eq_some_iff.mp made
  obtain ⟨fields, hfields, held⟩ := List.exists_of_findSome?_eq_some found
  exact plain fields (List.mem_reverse.mp hfields) _ (Fields.mem_of_get? held)

theorem isPlain_failure (failure : Option String) :
    Fields.IsPlain 100 (failure.elim [] failureFields) := by
  have text : ∀ s : String, (LooseText.ofString s).isWhole = true := fun s =>
    LooseText.isWhole_ofList s.toList
  cases failure with
  | none => simp [Fields.IsPlain]
  | some message =>
    have distinct : Fields.IsDistinct [("type", .str "RuntimeError"), ("message", .str message),
      ("traceback", .str (trace message))] := by
      have names : (["type", "message", "traceback"] : List LooseText).Nodup := by decide
      exact names
    simp [Fields.IsPlain, failureFields, Json.isPlain, text, distinct]

theorem isPlain_told (timestamp : String) (failure : Option String)
    (line : (Decimal.digits source.line).length ≤ Decimal.maxDigits)
    (contextsPlain : ∀ fields ∈ contexts, Fields.IsPlain 100 fields)
    (extraPlain : ∀ fields ∈ extra, Fields.IsPlain 100 fields) :
    (toldFields timestamp contexts source extra failure).IsPlain 100 := by
  have extraPlain : (extra.getD []).IsPlain 100 := by
    cases extra with
    | none => simp [Fields.IsPlain]
    | some fields => exact extraPlain fields rfl
  have told := (isPlain_sourceFields timestamp line).append (isPlain_contextFields contextsPlain)
  exact (told.override extraPlain).override (isPlain_failure failure)

theorem isDistinct_toldFields (timestamp : String) (contexts : Contexts) (source : LogSource)
    (failure : Option String) (once : ∀ fields ∈ extra, fields.IsDistinct) :
    (toldFields timestamp contexts source extra failure).IsDistinct :=
  ((isDistinct_told timestamp source contexts).override
    (isDistinct_getD once)).override (isDistinct_failure failure)

/-- What a line says has one of these reasons to be said. -/
theorem mem_names_toldFields {name : LooseText}
    (mem : name ∈ (toldFields timestamp contexts source extra failure).map (·.1)) :
    name ∈ (sourceFields timestamp source).map (·.1) ∨
      (name ∈ requestAttributes ∧ contexts.innermost name ≠ none) ∨
      name ∈ (extra.getD []).map (·.1) ∨ (name = "exception" ∧ failure ≠ none) := by
  rw [toldFields, Fields.mem_names_override, Fields.mem_names_override, List.map_append,
    List.mem_append, contextFields_names, List.mem_filter, Option.isSome_iff_ne_none] at mem
  rcases mem with ((base | request) | more) | exception
  · exact .inl base
  · exact .inr (.inl request)
  · exact .inr (.inr (.inl more))
  · cases failure with
    | none => cases exception
    | some message =>
      exact .inr (.inr (.inr ⟨List.mem_singleton.mp exception, Option.some_ne_none _⟩))

theorem make_of_takenName
    (taken : ∃ fields ∈ contexts, ∃ field ∈ fields, field.1 = Contexts.takenName) :
    make contexts source extra failure = .error .unusable := by
  have fault : contexts.fault? = some .unusable := by
    obtain ⟨fields, mem, field, hfield, same⟩ := taken
    refine if_pos (List.any_eq_true.mpr ⟨fields, mem, ?_⟩)
    exact List.any_eq_true.mpr ⟨field, hfield, decide_eq_true same⟩
  rw [make, fault]

/-- Whatever a record is told by contexts that leave it its own attributes, its line is printable
ASCII and is read back as all that was told, in order. Only a context with a field of the taken name
stands in the way: it cannot be entered. -/
theorem structuredLine_faithful (timestamp : String) (source : LogSource) (contexts : Contexts)
    (extra : Option Fields) (failure : Option String)
    (line : (Decimal.digits source.line).length ≤ Decimal.maxDigits)
    (contextsPlain : ∀ fields ∈ contexts, Json.isPlain 101 (.obj fields) = true)
    (extraPlain : ∀ fields ∈ extra, Json.isPlain 101 (.obj fields) = true)
    (own : ∀ fields ∈ contexts, ∀ field ∈ fields, field.1 ∉ ownAttributes) :
    ((∃ fields ∈ contexts, ∃ field ∈ fields, field.1 = Contexts.takenName) →
      make contexts source extra failure = .error .unusable) ∧
    ((∀ fields ∈ contexts, ∀ field ∈ fields, field.1 ≠ Contexts.takenName) →
      ∃ record written, make contexts source extra failure = .ok record ∧
        record.structuredLine timestamp = .ok written ∧
        (∀ c ∈ written.toList, Json.IsPrintable c) ∧
        Json.read written.toList =
          .ok (.obj (toldFields timestamp contexts source extra failure)) ∧
        ∀ name ∈ (toldFields timestamp contexts source extra failure).map (·.1),
          name ∈ (sourceFields timestamp source).map (·.1) ∨
          (name ∈ requestAttributes ∧ contexts.innermost name ≠ none) ∨
          name ∈ (extra.getD []).map (·.1) ∨ (name = "exception" ∧ failure ≠ none)) := by
  refine ⟨make_of_takenName, fun untaken => ?_⟩
  have spares : Spares contexts :=
    ⟨fun fields mem => (Fields.isPlain_obj_iff.mp (contextsPlain fields mem)).2, own⟩
  have extraOnce : ∀ fields ∈ extra, fields.IsDistinct := fun fields mem =>
    (Fields.isPlain_obj_iff.mp (extraPlain fields mem)).2
  have plain : Json.isPlain 101 (.obj (toldFields timestamp contexts source extra failure)) =
      true := Fields.isPlain_obj_iff.mpr
      ⟨isPlain_told timestamp failure line
          (fun fields mem => (Fields.isPlain_obj_iff.mp (contextsPlain fields mem)).1)
          (fun fields mem => (Fields.isPlain_obj_iff.mp (extraPlain fields mem)).1),
        isDistinct_toldFields timestamp contexts source failure extraOnce⟩
  obtain ⟨record, made, tells⟩ : ∃ record, make contexts source extra failure = .ok record ∧
      record.Tells contexts source extra failure := spares.exists_make untaken
  have written : record.structuredLine timestamp =
      .ok (Json.obj (toldFields timestamp contexts source extra failure)).text :=
    tells.structuredLine_told extraOnce
  refine ⟨record, _, made, written, ?_, ?_, fun name => mem_names_toldFields⟩
  · rw [Json.text, String.toList_ofList]
    exact Json.isPrinted plain
  · rw [Json.text, String.toList_ofList]
    exact Json.read_write plain (by decide)

theorem structuredLine_faithful_nested :
    ∃ record written,
      make [[("slug", .str "home"), ("request_id", .str "r1")],
          [("slug", .str "über\n\x7b\""), ("user", .str "ann")]]
        ⟨"", "INFO", "saved \"7\", \x7b\n", "service", "handle", 7⟩
        (some [("tags", .arr [.int 1, .null]), ("level", .str "AUDIT")]) (some "lost 😀") =
          .ok record ∧
      record.structuredLine "noon" = .ok written ∧ (∀ c ∈ written.toList, Json.IsPrintable c) ∧
      Json.read written.toList = .ok (.obj
        [("timestamp", .str "noon"), ("level", .str "AUDIT"), ("logger", .str "root"),
         ("message", .str "saved \"7\", \x7b\n"), ("module", .str "service"),
         ("function", .str "handle"), ("line", .int 7), ("request_id", .str "r1"),
         ("slug", .str "über\n\x7b\""), ("tags", .arr [.int 1, .null]),
         ("exception", .obj
           [("type", .str "RuntimeError"), ("message", .str "lost 😀"),
            ("traceback", .str "RuntimeError: lost 😀")])]) := by
  obtain ⟨record, written, made, line, printed, back, -⟩ :=
    (structuredLine_faithful "noon" ⟨"", "INFO", "saved \"7\", \x7b\n", "service", "handle", 7⟩
      [[("slug", .str "home"), ("request_id", .str "r1")],
        [("slug", .str "über\n\x7b\""), ("user", .str "ann")]]
      (some [("tags", .arr [.int 1, .null]), ("level", .str "AUDIT")]) (some "lost 😀")
      (by decide +kernel) (by decide +kernel) (by decide +kernel) (by decide)).2 (by decide)
  exact ⟨record, written, made, line, printed, back⟩

end LogRecord

end PagePress
