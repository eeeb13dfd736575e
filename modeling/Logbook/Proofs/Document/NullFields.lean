import Logbook.Document.Monitoring
import Logbook.Proofs.Document.HealthCheck
import Logbook.Proofs.Document.Legs
import Logbook.Proofs.Json.Applicative
import Logbook.Proofs.Json.NullRecord

/-!
# Documents with fields that are absent or null

The shape of each kind of document says which of its fields may be absent, at every level, and
whether `null` may stand there. A document is taken apart as its reader is put together, one section
or part of an exchange after the other.

* `HealthStep.ofJson_eq`: the steps of a check are not read as records, but see no difference.
* `FullHealthCheck.fields_eq`: a check with all its steps is read as one record.
* `Leg.readIn_eq_of_setsNull`: the legs of a log are looked up beside its record.
* `null_fields_of_documents`: what `null` means in each field of each kind of document.
-/

set_option autoImplicit false

namespace Logbook

open Fallible FieldReader

theorem TakesNull.part {α : Type} {shape : Shape} {read : Reader α} (h : TakesNull shape read)
    (name : String) : TakesNull shape (read.part name) where
  nullable hset := by
    unfold Reader.part
    rw [h.nullable hset]
  filled hset hread := by
    obtain ⟨fault, hfault⟩ := h.filled hset (part_eq_ok_iff.1 hread)
    exact ⟨_, part_eq_error_iff.2 ⟨fault, hfault, rfl⟩⟩

/-! ## Reports of gateways -/

def Processor.shape : Shape := .record [.filled "percent", .filled "load_average"] []

theorem Processor.takesNull : TakesNull shape read :=
  Laid.record (((Laid.withDefault (.plain _) rfl).map mk).seq (.withDefault (.plain _) rfl))
    (by decide) "CpuStats"

def SystemMemory.shape : Shape :=
  .record [.filled "used_in_bytes", .filled "free_in_bytes", .filled "total_in_bytes",
    .filled "used_percent", .filled "free_percent"] []

theorem SystemMemory.takesNull : TakesNull shape read :=
  Laid.record
    (((Laid.withDefault (.plain _) rfl).map mk)
      |>.seq (.withDefault (.plain _) rfl)
      |>.seq (.withDefault (.plain _) rfl)
      |>.seq (.withDefault (.plain _) rfl)
      |>.seq (.withDefault (.plain _) rfl))
    (by decide) "OsMemory"

def System.shape : Shape :=
  .record [.filled "cpu" Processor.shape, .filled "mem" SystemMemory.shape] []

theorem System.takesNull : TakesNull shape read :=
  Laid.record (((Laid.withDefault Processor.takesNull rfl).map mk)
    |>.seq (.withDefault SystemMemory.takesNull rfl)) (by decide) "OsStats"

def ProcessFiles.shape : Shape :=
  .record [.filled "open_file_descriptors", .filled "max_file_descriptors"] []

theorem ProcessFiles.takesNull : TakesNull shape read :=
  Laid.record (((Laid.withDefault (.plain _) rfl).map mk).seq (.withDefault (.plain _) rfl))
    (by decide) "ProcessStats"

def MemoryPool.shape : Shape :=
  .record [.filled "used_in_bytes", .filled "max_in_bytes", .filled "peak_used_in_bytes",
    .filled "peak_max_in_bytes"] []

theorem MemoryPool.takesNull : TakesNull shape read :=
  Laid.record
    (((Laid.withDefault (.plain _) rfl).map mk)
      |>.seq (.withDefault (.plain _) rfl)
      |>.seq (.withDefault (.plain _) rfl)
      |>.seq (.withDefault (.plain _) rfl))
    (by decide) "MemoryPool"

def MemoryPools.shape : Shape :=
  .record [.filled "young" MemoryPool.shape, .filled "old" MemoryPool.shape,
    .filled "survivor" MemoryPool.shape] []

theorem MemoryPools.takesNull : TakesNull shape read :=
  Laid.record
    (((Laid.withDefault MemoryPool.takesNull rfl).map mk)
      |>.seq (.withDefault MemoryPool.takesNull rfl)
      |>.seq (.withDefault MemoryPool.takesNull rfl))
    (by decide) "MemoryPools"

def MachineMemory.shape : Shape :=
  .record [.filled "heap_used_in_bytes", .filled "heap_used_percent",
    .filled "heap_committed_in_bytes", .filled "heap_max_in_bytes",
    .filled "non_heap_used_in_bytes", .filled "non_heap_committed_in_bytes",
    .filled "pools" MemoryPools.shape] []

theorem MachineMemory.takesNull : TakesNull shape read :=
  Laid.record
    (((Laid.withDefault (.plain _) rfl).map mk)
      |>.seq (.withDefault (.plain _) rfl)
      |>.seq (.withDefault (.plain _) rfl)
      |>.seq (.withDefault (.plain _) rfl)
      |>.seq (.withDefault (.plain _) rfl)
      |>.seq (.withDefault (.plain _) rfl)
      |>.seq (.withDefault MemoryPools.takesNull rfl))
    (by decide) "JvmMemory"

def Threads.shape : Shape := .record [.filled "count", .filled "peak_count"] []

theorem Threads.takesNull : TakesNull shape read :=
  Laid.record (((Laid.withDefault (.plain _) rfl).map mk).seq (.withDefault (.plain _) rfl))
    (by decide) "ThreadStats"

def Collector.shape : Shape :=
  .record [.filled "collection_count", .filled "collection_time_in_millis"] []

theorem Collector.takesNull : TakesNull shape read :=
  Laid.record (((Laid.withDefault (.plain _) rfl).map mk).seq (.withDefault (.plain _) rfl))
    (by decide) "CollectorStats"

def Garbage.shape : Shape := .record [.filled "collectors" (.map Collector.shape)] []

theorem Garbage.takesNull : TakesNull shape read :=
  Laid.record ((Laid.withDefault Collector.takesNull.keyed rfl).map mk) (by decide) "GcStats"

def VirtualMachine.shape : Shape :=
  .record [.filled "uptime_in_millis", .filled "timestamp", .filled "mem" MachineMemory.shape,
    .filled "threads" Threads.shape, .filled "gc" Garbage.shape] []

theorem VirtualMachine.takesNull : TakesNull shape read :=
  Laid.record
    (((Laid.withDefault (.plain _) rfl).map mk)
      |>.seq (.withDefault (.plain _) rfl)
      |>.seq (.withDefault MachineMemory.takesNull rfl)
      |>.seq (.withDefault Threads.takesNull rfl)
      |>.seq (.withDefault Garbage.takesNull rfl))
    (by decide) "JvmStats"

def Monitoring.shape : Shape :=
  .record [.required "gateway", .required "@timestamp", .nullable "hostname",
    .filled "os" System.shape, .filled "process" ProcessFiles.shape,
    .filled "jvm" VirtualMachine.shape] []

theorem Monitoring.takesNull : TakesNull shape ofDocument :=
  .part (Laid.record
    (((Laid.required _).map mk)
      |>.seq (.required _)
      |>.seq (.optional _)
      |>.seq (.withDefault System.takesNull rfl)
      |>.seq (.withDefault ProcessFiles.takesNull rfl)
      |>.seq (.withDefault VirtualMachine.takesNull rfl))
    (by decide) "MonitoringResponse") "monitoring document"

/-! ## What was seen of an exchange -/

def SeenRequest.shape : Shape :=
  .record [.nullable "uri", .nullable "method", .nullable "body", .nullable "headers"] []

theorem SeenRequest.takesNull : TakesNull shape read :=
  Laid.record
    (((Laid.optional _).map mk)
      |>.seq (.optional _)
      |>.seq (.optional _)
      |>.seq (.withDefault_of_null rfl))
    (by decide) "HttpRequestSnapshot"

theorem SeenRequest.without_filled_shape : shape.Without .filled :=
  .record (by decide) (by simp [Field.nullable, Shape.Without.plain])

def SeenResponse.shape : Shape :=
  .record [.nullable "status", .nullable "body", .nullable "headers"] []

theorem SeenResponse.takesNull : TakesNull shape read :=
  Laid.record
    (((Laid.optional _).map mk)
      |>.seq (.optional _)
      |>.seq (.withDefault_of_null rfl))
    (by decide) "HttpResponseSnapshot"

theorem SeenResponse.without_filled_shape : shape.Without .filled :=
  .record (by decide) (by simp [Field.nullable, Shape.Without.plain])

/-! ## Steps of health checks -/

/-- The fields of an old step. -/
def Exchange.flatLayout : List (Field Shape) :=
  [.nullable "uri" ["url"], .nullable "method", .nullable "status"]

/-- A new step has its fields by name only; an array is read as an old step. -/
def HealthStep.shape : Shape :=
  .record Exchange.flatLayout
    [.nullable "success", .nullable "message", .nullable "request" [] SeenRequest.shape,
      .nullable "response" [] SeenResponse.shape]

theorem HealthStep.without_filled_shape : shape.Without .filled :=
  .record (by decide) (by
    simp [Exchange.flatLayout, Field.nullable, Shape.Without.plain,
      SeenRequest.without_filled_shape, SeenResponse.without_filled_shape])

namespace Exchange

theorem laid_flatFields : flatFields.Laid flatLayout :=
  ((Laid.optional _ ["url"]).map _) |>.seq (.optional _) |>.seq (.optional _)

/-- A request or a response in a step is read the same. -/
theorem map_read_objectField?_eq {step step' : Json} {name : String} {inner : Shape} {α : Type}
    {read : Reader α} (hread : TakesNull inner read)
    (halike : (Field.nullable name [] inner).Alike (step.field? name) (step'.field? name)) :
    (objectField? step name).map read = (objectField? step' name).map read := by
  obtain hsame | ⟨value, value', hvalue, hvalue', inside⟩ := halike.filter rfl SetsNull.isObject_eq
  · exact congrArg (Option.map read) hsame
  · rw [objectField?, objectField?, hvalue, hvalue']
    exact congrArg some (hread.nullable inside)

/-- The exchange of a new step depends on what its request and its response are read as. -/
theorem ofNested?_congr {step step' : Json}
    (hrequest : (objectField? step "request").map SeenRequest.read =
      (objectField? step' "request").map SeenRequest.read)
    (hresponse : (objectField? step "response").map SeenResponse.read =
      (objectField? step' "response").map SeenResponse.read) :
    ofNested? step = ofNested? step' := by
  have hread (step : Json) : ofNested? step =
      ((objectField? step "request").map SeenRequest.read).bind fun request =>
        request.toOption.bind fun request =>
          ((objectField? step "response").map SeenResponse.read).elim (some ⟨request, .unknown⟩)
            fun response => response.toOption.map fun response => ⟨request, response⟩ := by
    unfold ofNested?
    cases objectField? step "request" with
    | none => rfl
    | some request =>
      cases hseen : SeenRequest.read request with
      | error fault => simp [hseen, Except.toOption]
      | ok seen =>
        cases objectField? step "response" with
        | none => simp [hseen, Except.toOption]
        | some response =>
          cases hreceived : SeenResponse.read response <;>
            simp [hseen, hreceived, Except.toOption]
  rw [hread, hread, hrequest, hresponse]

end Exchange

namespace HealthStep

/-- A step is the same with a field `null` that was absent. -/
theorem ofJson_eq {step step' : Json} (h : SetsNull .nullable shape step step') :
    ofJson step = ofJson step' := by
  have halike := h.alike_field? (by decide)
  have hplain (name : String) (hfield : Field.nullable name ∈ _) :
      step.field? name = step'.field? name ∨
        step.field? name = none ∧ step'.field? name = some .null :=
    (halike (.nullable name) hfield).eq_or_null rfl
  have hflat : Exchange.ofFlat? step = Exchange.ofFlat? step' :=
    congrArg Except.toOption
      (Exchange.laid_flatFields.record_nullable (by decide) "LegacyStep" h)
  have hnested : Exchange.ofNested? step = Exchange.ofNested? step' :=
    Exchange.ofNested?_congr
      (Exchange.map_read_objectField?_eq SeenRequest.takesNull
        (halike (.nullable "request" [] SeenRequest.shape) (by simp)))
      (Exchange.map_read_objectField?_eq SeenResponse.takesNull
        (halike (.nullable "response" [] SeenResponse.shape) (by simp)))
  have hexchange : Exchange.ofStep step = Exchange.ofStep step' := by
    unfold Exchange.ofStep
    rw [hflat, hnested]
  unfold ofJson
  rw [hexchange]
  congr 1
  · obtain hsame | ⟨hnone, hnull⟩ := hplain "success" (by simp)
    · rw [hsame]
    · rw [hnone, hnull]
  · obtain hsame | ⟨hnone, hnull⟩ := hplain "message" (by simp)
    · rw [hsame]
    · rw [hnone, hnull]

/-- Steps are read in canonical form, and always. -/
theorem takesNull : TakesNull shape fun step : Json =>
    (Reader.json step).map ofJson where
  nullable hset := congrArg Except.ok (ofJson_eq hset.canonical)
  filled hset _ := absurd hset without_filled_shape.not_setsNull

end HealthStep

/-! ## Health checks -/

theorem Reader.list_map {α β : Type} (f : α → β) (read : Reader α) (value : Json) :
    (list read value).map (List.map f) = list (fun item => (read item).map f) value := by
  have hitems : ∀ values : List Json,
      (items read values).map (List.map f) = items (fun item => (read item).map f) values := by
    intro values
    induction values with
    | nil => rfl
    | cons item rest ih =>
      rw [items, items, ← ih]
      cases read item with
      | error fault => rfl
      | ok a => cases items read rest <;> rfl
  cases value with
  | array values => exact hitems values
  | null | bool | int | float | string | object => rfl

namespace HealthCheck

/-- The fields of a check in front of its steps. -/
def ownLayout : List (Field Shape) :=
  [.required "@timestamp", .nullable "gateway", .nullable "endpoint", .filled "response-time",
    .filled "available", .filled "state", .filled "success"]

def shape : Shape := .record (ownLayout ++ [.filled "steps" (.list HealthStep.shape)]) []

/-- A check without its steps. -/
def ownFields (id : String) : FieldReader HealthCheck :=
  mk id <$> .required "@timestamp" readInstant <*>
    .optional "gateway" Reader.string <*>
    .optional "endpoint" Reader.string <*>
    .withDefault "response-time" Reader.int64 0 <*>
    .withDefault "available" Reader.bool false <*>
    .withDefault "state" Reader.int64 0 <*>
    .withDefault "success" Reader.bool false

theorem fields_eq (id : String) : fields id = Prod.mk <$> ownFields id <*> stepsField := by
  simp only [ownFields, functor_norm]
  rfl

theorem laid_ownFields (id : String) : (ownFields id).Laid ownLayout :=
  ((Laid.required _).map _)
    |>.seq (.optional _)
    |>.seq (.optional _)
    |>.seq (.withDefault (.plain _) rfl)
    |>.seq (.withDefault (.plain _) rfl)
    |>.seq (.withDefault (.plain _) rfl)
    |>.seq (.withDefault (.plain _) rfl)

end HealthCheck

namespace FullHealthCheck

/-- A check with steps of any content as the check with all its steps. -/
def ofRead (read : HealthCheck × List Json) : FullHealthCheck :=
  ⟨read.1, read.2.map HealthStep.ofJson⟩

/-- The fields of a check with all its steps. -/
def fields (id : String) : FieldReader FullHealthCheck :=
  mk <$> HealthCheck.ownFields id <*>
    .withDefault "steps" (Reader.list fun step => (Reader.json step).map HealthStep.ofJson) []

theorem fields_eq (id : String) : ofRead <$> HealthCheck.fields id = fields id := by
  have hsteps : List.map HealthStep.ofJson <$> stepsField = .withDefault "steps"
      (Reader.list fun step => (Reader.json step).map HealthStep.ofJson) [] := by
    unfold stepsField
    rw [map_withDefault]
    simp only [Reader.list_map]
    rfl
  rw [HealthCheck.fields_eq, fields, ← hsteps]
  simp only [functor_norm]
  rfl

theorem laid_fields (id : String) : (fields id).Laid
    (HealthCheck.ownLayout ++ [.filled "steps" (.list HealthStep.shape)]) :=
  ((HealthCheck.laid_ownFields id).map mk).seq (.withDefault HealthStep.takesNull.list rfl)

/-- The check in a hit with all its steps is read as one record. -/
theorem ofHit_eq (hit : Hit) (source : Json) : ofHit { hit with source } =
    match hit.id with
    | none => .error .unnamedCheck
    | some id => ((fields id).record "RawHealth").part ("health-check log " ++ id) source := by
  unfold ofHit HealthCheck.ofHit
  cases hit.id with
  | none => rfl
  | some id =>
    dsimp only
    unfold Reader.part
    rw [← fields_eq, record_map]
    cases (HealthCheck.fields id).record "RawHealth" source <;> rfl

theorem takesNull (hit : Hit) :
    TakesNull HealthCheck.shape fun source => ofHit { hit with source } := by
  simp only [ofHit_eq]
  cases hit.id with
  | none => exact ⟨fun _ => rfl, nofun⟩
  | some id => exact ((laid_fields id).record (by decide) "RawHealth").part _

end FullHealthCheck

namespace HealthSummary

/-- The summary of a check that has been read with all its steps. -/
def ofFull (full : FullHealthCheck) : HealthSummary :=
  let exchange := (full.steps.head?.map HealthStep.exchange).getD .unknown
  ⟨full.check, exchange.request.uri, exchange.request.method, exchange.response.status⟩

theorem ofHit_eq (hit : Hit) : ofHit hit = (FullHealthCheck.ofHit hit).map ofFull := by
  unfold ofHit FullHealthCheck.ofHit
  cases HealthCheck.ofHit hit with
  | error fault => rfl
  | ok read =>
    obtain ⟨check, steps⟩ := read
    cases steps <;> rfl

theorem takesNull (hit : Hit) :
    TakesNull HealthCheck.shape fun source => ofHit { hit with source } := by
  simp only [ofHit_eq]
  exact (FullHealthCheck.takesNull hit).map ofFull

end HealthSummary

/-! ## Request logs -/

/-- A field of a schema, which may be `null` where it may be absent. -/
def Entry.field {ρ : Type} (entry : Entry ρ) : Field Shape :=
  match entry.absent with
  | none => .required entry.name
  | some _ => .nullable entry.name

namespace Leg

/-- What was seen of a leg. -/
def shape : Leg → Shape
  | clientRequest | proxyRequest => SeenRequest.shape
  | clientResponse | proxyResponse => SeenResponse.shape

theorem without_filled_shape (leg : Leg) : leg.shape.Without .filled := by
  cases leg with
  | clientRequest | proxyRequest => exact SeenRequest.without_filled_shape
  | clientResponse | proxyResponse => exact SeenResponse.without_filled_shape

theorem takesNull_readSeen (leg : Leg) : TakesNull leg.shape leg.readSeen := by
  cases leg with
  | clientRequest | proxyRequest => exact SeenRequest.takesNull.map _
  | clientResponse | proxyResponse => exact SeenResponse.takesNull.map _

/-- The fields of a leg: its object, and its bare headers. -/
def fields (leg : Leg) : List (Field Shape) :=
  [.nullable leg.name [] leg.shape, .nullable leg.headersName]

end Leg

namespace RequestLog

/-- The summary of a log has the fields of its schema; of a leg the log has its fields by name. -/
def shape : Shape := .record (schema.map Entry.field) (Leg.all.flatMap Leg.fields)

theorem without_filled_shape : shape.Without .filled := by
  refine .record (by decide) fun field hfield => ?_
  rcases List.mem_append.1 hfield with hentry | hleg
  · obtain ⟨entry, -, rfl⟩ := List.mem_map.1 hentry
    unfold Entry.field
    cases entry.absent <;> exact .plain
  · obtain ⟨leg, -, hleg⟩ := List.mem_flatMap.1 hleg
    simp only [Leg.fields, List.mem_cons, List.not_mem_nil, or_false] at hleg
    obtain rfl | rfl := hleg
    · exact leg.without_filled_shape
    · exact .plain

theorem laid_fields : fields.Laid (schema.map Entry.field) := by
  have hlaid : fields.Laid _ :=
    ((Laid.required _).map mk)
      |>.seq (.required _)
      |>.seq (.required _)
      |>.seq (.required _)
      |>.seq (.optional _)
      |>.seq (.required _)
      |>.seq (.required _)
      |>.seq (.required _)
      |>.seq (.required _)
      |>.seq (.optional _)
      |>.seq (.optional _)
      |>.seq (.optional _)
      |>.seq (.optional _)
      |>.seq (.optional _)
      |>.seq (.optional _)
      |>.seq (.optional _)
      |>.seq (.optional _)
      |>.seq (.optional _)
      |>.seq (.optional _)
      |>.seq (.optional _)
      |>.seq (.optional _)
      |>.seq (.optional _)
  exact hlaid

theorem nodup_names_shape :
    ((schema.map Entry.field ++ Leg.all.flatMap Leg.fields).flatMap Field.names).Nodup := by
  decide

theorem takesNull : TakesNull shape ofDocument where
  nullable h := by
    unfold ofDocument Reader.part
    rw [laid_fields.record_nullable nodup_names_shape "LogRecord" h]
  filled h _ := absurd h without_filled_shape.not_setsNull

end RequestLog

/-- What was seen of a leg does not depend on a `null` in it, or in place of it. -/
theorem Leg.readIn_eq_of_setsNull {source source' : Json}
    (h : SetsNull .nullable RequestLog.shape source source') (leg : Leg) :
    leg.readIn source = leg.readIn source' := by
  have hmem : leg ∈ Leg.all := by cases leg <;> decide
  have hpresent (name : String) (inner : Shape) (hfield : .nullable name [] inner ∈ leg.fields) :
      present? source name = present? source' name ∨ ∃ value value',
        present? source name = some value ∧ present? source' name = some value' ∧
          SetsNull .nullable inner value value' := by
    have halike := h.alike_field? RequestLog.nodup_names_shape _
      (List.mem_append_right _ (List.mem_flatMap.2 ⟨leg, hmem, hfield⟩))
    exact halike.filter rfl fun inside => congrArg not inside.isNull_eq
  have hheaders : present? source leg.headersName = present? source' leg.headersName := by
    obtain hsame | ⟨_, _, -, -, inside⟩ := hpresent leg.headersName .plain (by simp [fields])
    · exact hsame
    · cases inside
  unfold readIn originIn
  obtain hsame | ⟨value, value', hvalue, hvalue', inside⟩ :=
    hpresent leg.name leg.shape (by simp [fields])
  · rw [hsame, hheaders]
  · rw [hvalue, hvalue']
    exact congrArg (Except.map some) ((leg.takesNull_readSeen.part leg.name).nullable inside)

theorem FullRequestLog.takesNull : TakesNull RequestLog.shape ofDocument where
  nullable h := by
    refine eq_of_same (fun full => ?_) ?_
    · simp only [ofDocument_eq_ok_iff, RequestLog.takesNull.nullable h,
        Leg.readIn_eq_of_setsNull h]
    · simp only [fault?_ofDocument, RequestLog.takesNull.nullable h, Leg.readIn_eq_of_setsNull h]
  filled h _ := absurd h RequestLog.without_filled_shape.not_setsNull

/-- **A field that is `null` and one that is absent.** A document of any kind in which a nullable
field is `null` is read as without the field, at every level: with the same result, or with the same
fault. All fields of a request log that may be absent are nullable, and so are all in the steps of a
health check. A health check or a report in which a filled field is `null` is not read at all,
whatever is read without the field. -/
theorem null_fields_of_documents (hit : Hit) :
    (∀ source source', ¬SetsNull .filled RequestLog.shape source source') ∧
    TakesNull RequestLog.shape RequestLog.ofDocument ∧
    TakesNull RequestLog.shape FullRequestLog.ofDocument ∧
    (∀ step step', ¬SetsNull .filled HealthStep.shape step step') ∧
    TakesNull HealthCheck.shape (fun source => HealthSummary.ofHit { hit with source }) ∧
    TakesNull HealthCheck.shape (fun source => FullHealthCheck.ofHit { hit with source }) ∧
    TakesNull Monitoring.shape Monitoring.ofDocument :=
  ⟨fun _ _ => RequestLog.without_filled_shape.not_setsNull, RequestLog.takesNull,
    FullRequestLog.takesNull, fun _ _ => HealthStep.without_filled_shape.not_setsNull,
    HealthSummary.takesNull hit, FullHealthCheck.takesNull hit, Monitoring.takesNull⟩

/-- A report without the state of the machine, and the same report with `null` for it. -/
theorem report_with_null_section :
    let report : Keyed Json :=
      ⟨[("@timestamp", .int 0), ("gateway", .string "gw-1")], by decide⟩
    report.find? "os" = none ∧
      Monitoring.ofDocument (.object report.toList) =
        .ok ⟨"gw-1", 0, none, .unknown, .unknown, .unknown⟩ ∧
      Monitoring.ofDocument (.object (report.insert "os" .null).toList) =
        .error (.unreadable "monitoring document" (.mistyped .null "struct OsStats")) :=
  ⟨rfl, rfl, rfl⟩

end Logbook
