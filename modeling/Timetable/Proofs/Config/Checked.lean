import Timetable.Daemon
import Timetable.Proofs.Cron.Accepted
import Timetable.Proofs.Rule.Generation
import Timetable.Proofs.Runs.Safe

/-! What is checked of a configuration.

A document is refused with an error of configurations, or its tasks are those of its list, each with
a name of its own and with a rule that has runs. The zone of the machine is not checked, which is
looked up where a document names none, and neither is how long a number is.
-/

set_option autoImplicit false

namespace Timetable

namespace Value

mutual

/-- The value is one that a file holds: no field and no rule stands in it ready made, and the keys of
its mappings are texts. -/
def isLoaded : Value → Bool
  | .field _ | .rule _ => false
  | .list items | .tuple items | .set items | .frozenSet items => areLoaded items
  | .mapping entries => entriesLoaded entries
  | _ => true

def areLoaded : List Value → Bool
  | [] => true
  | item :: rest => isLoaded item && areLoaded rest

def entriesLoaded : List (Value × Value) → Bool
  | [] => true
  | (.text _, value) :: rest => isLoaded value && entriesLoaded rest
  | _ :: _ => false

end

def entries : Value → List (Value × Value)
  | .mapping entries => entries
  | _ => []

variable {value item : Value} {items : List Value} {entries : List (Value × Value)} {key : String}

theorem isLoaded_of_mem (loaded : areLoaded items = true) (member : item ∈ items) :
    item.isLoaded = true := by
  induction items with
  | nil => cases member
  | cons first rest ih =>
    obtain ⟨head, tail⟩ := Bool.and_eq_true_iff.mp loaded
    cases List.mem_cons.mp member with
    | inl same => exact same ▸ head
    | inr later => exact ih tail later

theorem isLoaded_of_entry {entry : Value × Value} (loaded : entriesLoaded entries = true)
    (member : entry ∈ entries) : (∃ name, entry.1 = .text name) ∧ entry.2.isLoaded = true := by
  induction entries with
  | nil => cases member
  | cons first rest ih =>
    obtain ⟨name, value⟩ := first
    cases name with
    | text name =>
      obtain ⟨head, tail⟩ := Bool.and_eq_true_iff.mp loaded
      cases List.mem_cons.mp member with
      | inl same => exact same ▸ ⟨⟨name, rfl⟩, head⟩
      | inr later => exact ih tail later
    | _ => cases loaded

theorem isLoaded_of_entry? (loaded : entriesLoaded entries = true)
    (found : entry? entries key = some value) : value.isLoaded = true := by
  obtain ⟨entry, known, rfl⟩ := Option.map_eq_some_iff.mp found
  exact (isLoaded_of_entry loaded (List.mem_of_find?_eq_some known)).2

theorem isLoaded_entryOf (loaded : entriesLoaded entries = true) (key : String) :
    (Config.entryOf entries key).isLoaded = true := by
  rw [Config.entryOf]
  cases found : entry? entries key with
  | none => rfl
  | some value => exact isLoaded_of_entry? loaded found

theorem breach?_unknownKeys (loaded : entriesLoaded entries = true) (known : List String) :
    (Value.list (Config.unknownKeys known entries)).breach? = none := by
  refine breach?_eq_none (areWritable_iff.mpr fun key member => ?_)
  obtain ⟨entry, listed, rfl⟩ :=
    List.mem_map.mp (List.mem_of_mem_filter (List.mem_mergeSort.mp member))
  obtain ⟨name, same⟩ := (isLoaded_of_entry loaded listed).1
  rw [same]
  rfl

theorem isLoose_of_isLoaded (loaded : value.isLoaded = true) : value.IsLoose := by
  cases value with
  | mapping entries =>
    rintro entry member item listed field rfl
    have inner := (isLoaded_of_entry loaded member).2
    generalize entry.2 = given at inner listed
    -- A field is no value that a file holds, neither alone nor in a list.
    cases given with
    | list items => cases isLoaded_of_mem inner listed
    | field => cases inner
    | _ => cases List.mem_singleton.mp listed
  | _ => trivial

end Value

theorem Rule.IsReadLoosely.isWritable {rule : Rule} (read : rule.IsReadLoosely) :
    rule.isWritable = true :=
  List.all_eq_true.mpr fun part _ => List.all_eq_true.mpr fun field member =>
    isWritable_of_isWritten (read.isRead.isFormed part field member)
      ((read.isWritten part).2 field member)

namespace Config

section Reports

variable {α β : Type} {breaks weaker : Failure → Prop} {attempt : Except ConfigError α}
  {next : α → Except ConfigError β}

/-- Whatever the attempt fails in is reported as an error of configurations, unless one of the
failures comes in place of the report. -/
def Reports (breaks : Failure → Prop) (attempt : Except ConfigError α) : Prop :=
  ∀ error, attempt = .error error →
    error.breach? = none ∨ ∃ failure, error.breach? = some failure ∧ breaks failure

theorem Reports.ok (a : α) : Reports breaks (.ok a) := by
  rintro error ⟨⟩

theorem Reports.error {error : ConfigError} (told : error.breach? = none) :
    Reports breaks (.error error : Except ConfigError α) := by
  rintro _ ⟨⟩
  exact .inl told

theorem Reports.bind (first : Reports breaks attempt)
    (later : ∀ a, attempt = .ok a → Reports breaks (next a)) :
    Reports breaks (attempt >>= next) := by
  cases known : attempt with
  | error error =>
    rintro _ ⟨⟩
    exact first error known
  | ok a => exact later a known

theorem Reports.map {f : α → β} (first : Reports breaks attempt) :
    Reports breaks (attempt.map f) :=
  fun error failed => first error (mapped_eq_error.mp failed)

theorem Reports.mono (first : Reports breaks attempt)
    (among : ∀ failure, breaks failure → weaker failure) : Reports weaker attempt := by
  intro error failed
  refine (first error failed).imp_right ?_
  rintro ⟨failure, told, known⟩
  exact ⟨failure, told, among failure known⟩

theorem Reports.unless {check : Bool} {error : ConfigError} (told : error.breach? = none)
    (later : Reports breaks attempt) :
    Reports breaks (if check = true then throw error else attempt) := by
  cases check with
  | true => exact .error told
  | false => exact later

theorem unless_eq_ok {check : Bool} {error : ConfigError} {a : α}
    (read : (if check = true then throw error else attempt) = .ok a) : attempt = .ok a := by
  cases check with
  | true => cases read
  | false => exact read

end Reports

section Entries

variable {value raw : Value} {path s : String} {entries : List (Value × Value)} {default mode : Mode}
  {breaks : Failure → Prop}

theorem textOf_reports (value : Value) (path : String) : Reports breaks (textOf value path) := by
  unfold textOf
  split
  next =>
    dsimp only
    split
    next => exact .error rfl
    next => exact .ok _
  next => exact .error rfl

theorem textOf_eq_ok (read : textOf value path = .ok s) : ∃ given : String, value = .text given ∧
    s.toList = Text.strip given.toList ∧ s.toList ≠ [] := by
  unfold textOf at read
  split at read
  next given =>
    dsimp only at read
    split at read
    next => cases read
    next filled =>
      cases read
      rw [String.toList_ofList]
      exact ⟨given, rfl, rfl, fun none => filled (List.isEmpty_iff.mpr none)⟩
  next => cases read

theorem truthOf_reports (value : Value) (path : String) (default : Bool) :
    Reports breaks (truthOf value path default) := by
  unfold truthOf
  split
  next => exact .ok _
  next => exact .ok _
  next => exact .error rfl

theorem truthOf_eq_ok {truth fallback : Bool} (read : truthOf value path fallback = .ok truth) :
    value = .null ∧ truth = fallback ∨ value = .bool truth := by
  unfold truthOf at read
  split at read
  next =>
    cases read
    exact .inl ⟨rfl, rfl⟩
  next =>
    cases read
    exact .inr rfl
  next => cases read

theorem modeOf_reports (value : Value) (path : String) (default : Mode) :
    Reports breaks (modeOf value path default) := by
  unfold modeOf
  split
  next => exact .ok _
  next =>
    split
    next failed =>
      rintro _ ⟨⟩
      exact textOf_reports _ _ _ failed
    next =>
      dsimp only
      split
      next => exact .ok _
      next => exact .error rfl

theorem modeOf_eq_ok (read : modeOf value path default = .ok mode) :
    value = .null ∧ mode = default ∨ ∃ given : String, value = .text given ∧
      Mode.ofName? (String.ofList (Text.lower (Text.strip given.toList))) = some mode := by
  unfold modeOf at read
  split at read
  next =>
    cases read
    exact .inl ⟨rfl, rfl⟩
  next =>
    split at read
    next => cases read
    next text known =>
      obtain ⟨given, rfl, same, -⟩ := textOf_eq_ok known
      dsimp only at read
      split at read
      next found =>
        cases read
        exact .inr ⟨given, rfl, same ▸ found⟩
      next => cases read

theorem functionOf_reports (value : Value) (path : String) :
    Reports breaks (functionOf value path) := by
  unfold functionOf
  split
  next failed =>
    rintro _ ⟨⟩
    exact textOf_reports _ _ _ failed
  next target _ =>
    cases Target.resolve target with
    | error error => exact .error rfl
    | ok called => exact .ok called

/-- The target of a task is looked up without the blanks at its ends. -/
theorem functionOf_eq_ok {target : String} {called : Library.Function}
    (stripped : Text.strip target.toList = target.toList)
    (read : functionOf (.text target) path = .ok called) : Target.resolve target = .ok called := by
  have read : (Target.resolve target).mapError (fun error => ConfigError.target error path) =
      .ok called := by
    unfold functionOf at read
    split at read
    next => cases read
    next text known =>
      obtain ⟨given, same, trimmed, -⟩ := textOf_eq_ok known
      cases same
      exact String.toList_injective (trimmed.trans stripped) ▸ read
  cases found : Target.resolve target with
  | error error =>
    rw [found] at read
    cases read
  | ok called =>
    rw [found] at read
    cases read
    rfl

theorem taskArgs_reports (value : Value) (path : String) : Reports breaks (taskArgs value path) := by
  unfold taskArgs
  split
  next => exact .ok _
  next => exact .ok _
  next => exact .error rfl

theorem taskArgs_eq_ok {args : List Value} (read : taskArgs value path = .ok args) :
    value = .null ∧ args = [] ∨ value = .list args := by
  unfold taskArgs at read
  split at read
  next =>
    cases read
    exact .inl ⟨rfl, rfl⟩
  next =>
    cases read
    exact .inr rfl
  next => cases read

/-- A number in the rule or the expression among the entries has too many digits, and this is what
comes of it. -/
inductive Outsizes (entries : List (Value × Value)) : Failure → Prop where
  | unwritable {parts : List (Value × Value)}
      (scheduled : Value.entry? entries "rule" = some (.mapping parts))
      (long : (Value.mapping parts).isWritable = false) : Outsizes entries .unwritable
  | rule {parts : List (Value × Value)} {digits : Nat}
      (scheduled : Value.entry? entries "rule" = some (.mapping parts))
      (overlong : Rule.HasOverlong parts digits) : Outsizes entries (.tooManyDigits digits)
  | cron {given : String} {digits : Nat}
      (scheduled : Value.entry? entries "cron" = some (.text given))
      (overlong : Cron.IsOverlong (String.ofList (Text.strip given.toList)) digits) :
      Outsizes entries (.tooManyDigits digits)

theorem schedule_reports (loaded : Value.entriesLoaded entries = true) (path : String) :
    Reports (Outsizes entries) (schedule entries path) := by
  unfold schedule
  split
  next raw scheduled _ =>
    split
    next failed =>
      rintro _ ⟨⟩
      cases raw with
      | mapping parts =>
        refine (Rule.breach?_of_ofEntries failed).imp_right ?_
        rintro (⟨told, long⟩ | ⟨digits, told, overlong⟩)
        · exact ⟨_, told, .unwritable scheduled long⟩
        · exact ⟨_, told, .rule scheduled overlong⟩
      | null => cases failed
      | _ =>
        cases failed
        exact .inl rfl
    next read =>
      have loose := Value.isLoose_of_isLoaded (Value.isLoaded_of_entry? loaded scheduled)
      rw [if_pos (Rule.IsReadLoosely.isWritable (.inl ⟨raw, _, loose, read⟩))]
      exact .ok _
  next raw _ scheduled =>
    split
    next failed =>
      rintro _ ⟨⟩
      exact textOf_reports _ _ _ failed
    next expression text =>
      obtain ⟨given, rfl, same, -⟩ := textOf_eq_ok text
      split
      next failed =>
        rintro _ ⟨⟩
        obtain ⟨told, -⟩ | ⟨digits, told, overlong⟩ := Cron.refuses_of_rule failed
        · exact .inl told
        · rw [← @String.ofList_toList expression, same] at overlong
          exact .inr ⟨_, told, .cron scheduled overlong⟩
      next => exact .ok _
  next => exact .error rfl

/-- A rule is read from one of two entries, of which the other one is missing. -/
def Schedules (entries : List (Value × Value)) (rule : Rule) : Prop :=
  (∃ raw path, Value.entry? entries "rule" = some raw ∧ Value.entry? entries "cron" = none ∧
    Rule.ofValue raw path = .ok rule) ∨
  ∃ given : String, Value.entry? entries "rule" = none ∧
    Value.entry? entries "cron" = some (.text given) ∧
    Cron.rule (String.ofList (Text.strip given.toList)) = .ok rule

theorem schedule_eq_ok {rule : Rule} {source : String}
    (read : schedule entries path = .ok (rule, source)) : Schedules entries rule := by
  unfold schedule at read
  split at read
  next raw named unnamed =>
    split at read
    next => cases read
    next known =>
      split at read
      next =>
        cases read
        exact .inl ⟨raw, _, named, unnamed, known⟩
      next => cases read
  next raw unnamed named =>
    split at read
    next => cases read
    next expression text =>
      obtain ⟨given, rfl, same, -⟩ := textOf_eq_ok text
      split at read
      next => cases read
      next known =>
        cases read
        refine .inr ⟨given, unnamed, named, ?_⟩
        rw [← same, String.ofList_toList]
        exact known
  next => cases read

end Entries

end Config

namespace Rule

/-- Every part has fields, all of which suit it, and every part of a time of day has candidates. -/
structure IsUsable (rule : Rule) : Prop where
  filled : ∀ part, rule.get part ≠ []
  formed : rule.IsFormed
  timed : ∀ part ∈ Part.ofTime, ∃ values, rule.candidates part = .ok values ∧ values ≠ []

theorem IsReadLoosely.isUsable {rule : Rule} (read : rule.IsReadLoosely) : rule.IsUsable where
  filled part := (read.isWritten part).1
  formed := read.isRead.isFormed
  timed part _ := by
    obtain ⟨list, unites⟩ := exists_unites read.isRead.isFormed (read.isWritten part)
    exact ⟨list, unites.known, unites.some⟩

end Rule

namespace Config

theorem Schedules.isUsable {entries : List (Value × Value)} {rule : Rule}
    (scheduled : Schedules entries rule) (loaded : Value.entriesLoaded entries = true) :
    rule.IsUsable := by
  obtain ⟨raw, path, named, -, read⟩ | ⟨given, -, -, read⟩ := scheduled
  · have loose := Value.isLoose_of_isLoaded (Value.isLoaded_of_entry? loaded named)
    exact Rule.IsReadLoosely.isUsable (.inl ⟨raw, path, loose, read⟩)
  · exact (Rule.isReadLoosely_of_cron read).isUsable

/-- The task is the one that the entries tell of, where `default` is the mode of tasks without one. -/
structure TellsOf (default : Mode) (entries : List (Value × Value)) (task : ConfiguredTask) :
    Prop where
  name : ∃ given : String, entryOf entries "name" = .text given ∧
    task.name.toList = Text.strip given.toList
  filled : task.name.toList ≠ []
  stripped : Text.strip task.name.toList = task.name.toList
  enabled : entryOf entries "enabled" = .null ∧ task.enabled = true ∨
    entryOf entries "enabled" = .bool task.enabled
  rule : Schedules entries task.rule
  usable : task.rule.IsUsable
  target : ∃ given : String, entryOf entries "target" = .text given ∧
    task.target.toList = Text.strip given.toList
  called : Target.resolve task.target = .ok task.called
  args : entryOf entries "args" = .null ∧ task.args = [] ∨
    entryOf entries "args" = .list task.args
  mode : entryOf entries "mode" = .null ∧ task.mode = default ∨
    ∃ given : String, entryOf entries "mode" = .text given ∧
      Mode.ofName? (String.ofList (Text.lower (Text.strip given.toList))) = some task.mode

section Tasks

variable {path : String} {entries : List (Value × Value)} {raw : Value} {items : List Value}
  {seen : List String} {index : Nat} {default : Mode} {task : ConfiguredTask}
  {tasks : List ConfiguredTask}

theorem taskOfEntries_reports (loaded : Value.entriesLoaded entries = true) (path : String)
    (default : Mode) : Reports (Outsizes entries) (taskOfEntries entries path default) :=
  .unless (Value.breach?_unknownKeys loaded _) <|
    (textOf_reports _ _).bind fun _ _ =>
    (truthOf_reports _ _ _).bind fun _ _ =>
    (schedule_reports loaded _).bind fun _ _ =>
    (textOf_reports _ _).bind fun _ _ =>
    (functionOf_reports _ _).bind fun _ _ =>
    (taskArgs_reports _ _).bind fun _ _ =>
    (modeOf_reports _ _ _).bind fun _ _ => .ok _

theorem taskOf_reports (loaded : raw.isLoaded = true) (path : String) (default : Mode) :
    Reports (fun failure => ∃ entries, raw = .mapping entries ∧ Outsizes entries failure)
      (taskOf raw path default) := by
  unfold taskOf
  split
  next entries =>
    exact (taskOfEntries_reports loaded _ _).mono fun failure outsizes => ⟨entries, rfl, outsizes⟩
  next => exact .error rfl

theorem tasksFrom_reports (loaded : Value.areLoaded items = true) (default : Mode)
    (seen : List String) (index : Nat) :
    Reports (fun failure => ∃ entries, .mapping entries ∈ items ∧ Outsizes entries failure)
      (tasksFrom default seen index items) := by
  induction items generalizing seen index with
  | nil => exact .ok []
  | cons raw rest ih =>
    obtain ⟨first, others⟩ := Bool.and_eq_true_iff.mp loaded
    unfold tasksFrom
    split
    next failed =>
      rintro _ ⟨⟩
      refine (taskOf_reports first _ _).mono ?_ _ failed
      rintro failure ⟨entries, rfl, outsizes⟩
      exact ⟨entries, List.mem_cons_self, outsizes⟩
    next =>
      split
      next => exact .error rfl
      next =>
        refine ((ih others _ _).mono ?_).map
        rintro failure ⟨entries, member, outsizes⟩
        exact ⟨entries, List.mem_cons_of_mem _ member, outsizes⟩

theorem taskOfEntries_tells (loaded : Value.entriesLoaded entries = true)
    (read : taskOfEntries entries path default = .ok task) : TellsOf default entries task := by
  obtain ⟨name, named, read⟩ := bound_eq_ok.mp (unless_eq_ok read)
  obtain ⟨enabled, told, read⟩ := bound_eq_ok.mp read
  obtain ⟨⟨rule, source⟩, scheduled, read⟩ := bound_eq_ok.mp read
  obtain ⟨target, aimed, read⟩ := bound_eq_ok.mp read
  obtain ⟨called, found, read⟩ := bound_eq_ok.mp read
  obtain ⟨args, given, read⟩ := bound_eq_ok.mp read
  obtain ⟨mode, moded, read⟩ := bound_eq_ok.mp read
  cases read
  obtain ⟨title, same, stripped, filled⟩ := textOf_eq_ok named
  obtain ⟨aim, sameAim, strippedAim, -⟩ := textOf_eq_ok aimed
  have planned := schedule_eq_ok scheduled
  -- The target is stripped once more where it is looked up, which changes nothing.
  exact {
    name := ⟨title, same, stripped⟩
    filled := filled
    stripped := by rw [stripped, Text.strip_strip]
    enabled := truthOf_eq_ok told
    rule := planned
    usable := planned.isUsable loaded
    target := ⟨aim, sameAim, strippedAim⟩
    called := functionOf_eq_ok (by rw [strippedAim, Text.strip_strip]) found
    args := taskArgs_eq_ok given
    mode := modeOf_eq_ok moded }

/-- The tasks that are read are those of the items, in order, and no two of them have one name. -/
theorem tasksFrom_tells (loaded : Value.areLoaded items = true)
    (read : tasksFrom default seen index items = .ok tasks) :
    List.Forall₂ (fun raw task => ∃ entries, raw = .mapping entries ∧ TellsOf default entries task)
        items tasks ∧
      (tasks.map ConfiguredTask.name).Nodup ∧ ∀ task ∈ tasks, task.name ∉ seen := by
  induction items generalizing seen index tasks with
  | nil =>
    cases read
    exact ⟨.nil, .nil, fun _ member => absurd member List.not_mem_nil⟩
  | cons raw rest ih =>
    obtain ⟨first, others⟩ := Bool.and_eq_true_iff.mp loaded
    unfold tasksFrom at read
    split at read
    next => cases read
    next task known =>
      split at read
      next => cases read
      next fresh =>
        obtain ⟨later, knownLater, rfl⟩ := mapped_eq_ok.mp read
        obtain ⟨each, distinct, unseen⟩ := ih others knownLater
        -- The tasks that follow were read with this name among those seen.
        refine ⟨.cons ?_ each, List.nodup_cons.mpr ⟨fun again => ?_, distinct⟩,
          List.forall_mem_cons.mpr ⟨fun before => ?_, fun other member before => ?_⟩⟩
        · cases raw with
          | mapping entries => exact ⟨entries, rfl, taskOfEntries_tells first known⟩
          | _ => cases known
        · obtain ⟨other, member, same⟩ := List.mem_map.mp again
          exact unseen other member (same ▸ List.mem_cons_self)
        · exact fresh (List.contains_iff_mem.mpr before)
        · exact unseen other member (List.mem_cons_of_mem _ before)

end Tasks

section Documents

variable {machine : MachineZone} {clock : Int} {document value : Value} {error : ConfigError}
  {entries : List (Value × Value)} {breaks : Failure → Prop} {config : Config}

def defaultsOf (document : Value) : List (Value × Value) :=
  (entryOf document.entries "defaults").entries

/-- The configuration has the tasks of the list in the document, in order, under names that differ. -/
structure IsChecked (config : Config) (document : Value) : Prop where
  tasks : ∃ items default, entryOf document.entries "tasks" = .list items ∧ items ≠ [] ∧
    modeOf (entryOf (defaultsOf document) "mode") "defaults.mode" .chain = .ok default ∧
    List.Forall₂ (fun raw task => ∃ entries, raw = .mapping entries ∧ TellsOf default entries task)
      items config.tasks
  distinct : (config.tasks.map ConfiguredTask.name).Nodup

/-- What comes in place of an error of configurations: the zone of the machine cannot be told where
none is named, or a number in the schedule of a task has too many digits. -/
inductive Breaks (machine : MachineZone) (clock : Int) (document : Value) : Failure → Prop where
  | zone {fault : Fault} (unnamed : entryOf (defaultsOf document) "timezone" = .null)
      (untold : ¬machine.Tells clock) (off : fault.IsOffCalendar) :
      Breaks machine clock document fault.failure
  | task {items : List Value} {entries : List (Value × Value)} {failure : Failure}
      (listed : entryOf document.entries "tasks" = .list items)
      (member : .mapping entries ∈ items) (outsizes : Outsizes entries failure) :
      Breaks machine clock document failure

theorem mappingOf_reports (value : Value) (told : error.breach? = none) :
    Reports breaks (mappingOf value error) := by
  unfold mappingOf
  split
  next => exact .ok _
  next =>
    split
    next => exact .ok _
    next => exact .error told

theorem mappingOf_eq_ok (read : mappingOf value error = .ok entries) : entries = value.entries := by
  unfold mappingOf at read
  split at read
  next void =>
    cases read
    cases value with
    | mapping entries => exact (List.isEmpty_iff.mp void).symm
    | _ => rfl
  next =>
    split at read
    next =>
      cases read
      rfl
    next => cases read

theorem zoneOf_reports (machine : MachineZone) (clock : Int) (value : Value) :
    Reports (fun failure => value = .null ∧ ¬machine.Tells clock ∧
      ∃ fault : Fault, fault.IsOffCalendar ∧ failure = fault.failure)
      (zoneOf clock value machine) := by
  unfold zoneOf
  split
  next =>
    obtain ⟨-, found⟩ | ⟨untold, fault, failed, off⟩ := Zone.ofMachine_cases clock machine
    · rw [found]
      exact .ok _
    · rw [failed]
      rintro _ ⟨⟩
      exact .inr ⟨_, rfl, rfl, untold, fault, off, rfl⟩
  next name =>
    refine Reports.map ?_
    unfold zoneNamed
    split
    next => exact .ok _
    next => exact .error rfl
  next => exact .error rfl

theorem entriesLoaded_entries (loaded : value.isLoaded = true) :
    Value.entriesLoaded value.entries = true := by
  cases value with
  | mapping entries => exact loaded
  | _ => rfl

theorem ofDocument_reports (machine : MachineZone) (clock : Int)
    (loaded : document.isLoaded = true) :
    Reports (Breaks machine clock document) (ofDocument clock document machine) := by
  have inner := entriesLoaded_entries loaded
  refine (mappingOf_reports document rfl).bind fun entries known => ?_
  obtain rfl := mappingOf_eq_ok known
  refine .unless (Value.breach?_unknownKeys inner _) ?_
  have defaultsLoaded := entriesLoaded_entries (Value.isLoaded_entryOf inner "defaults")
  refine (mappingOf_reports _ rfl).bind fun defaults known => ?_
  obtain rfl := mappingOf_eq_ok known
  refine .unless (Value.breach?_unknownKeys defaultsLoaded _) ?_
  have zoned : Reports (Breaks machine clock document)
      (zoneOf clock (entryOf (defaultsOf document) "timezone") machine) := by
    refine (zoneOf_reports machine clock _).mono ?_
    rintro failure ⟨unnamed, untold, fault, off, rfl⟩
    exact .zone unnamed untold off
  refine zoned.bind fun zone _ => (modeOf_reports _ _ _).bind fun default _ => ?_
  have tasksLoaded := Value.isLoaded_entryOf inner "tasks"
  split
  next first rest listed =>
    rw [listed] at tasksLoaded
    refine ((tasksFrom_reports tasksLoaded _ _ _).mono ?_).bind fun _ _ => .ok _
    rintro failure ⟨entries, member, outsizes⟩
    exact .task listed member outsizes
  next => exact .error rfl

theorem isChecked_of_ofDocument (loaded : document.isLoaded = true)
    (read : ofDocument clock document machine = .ok config) : config.IsChecked document := by
  obtain ⟨entries, known, read⟩ := bound_eq_ok.mp read
  obtain rfl := mappingOf_eq_ok known
  obtain ⟨defaults, known, read⟩ := bound_eq_ok.mp (unless_eq_ok read)
  obtain rfl := mappingOf_eq_ok known
  obtain ⟨zone, -, read⟩ := bound_eq_ok.mp (unless_eq_ok read)
  obtain ⟨default, moded, read⟩ := bound_eq_ok.mp read
  have tasksLoaded := Value.isLoaded_entryOf (entriesLoaded_entries loaded) "tasks"
  split at read
  next first rest listed =>
    obtain ⟨tasks, told, read⟩ := bound_eq_ok.mp read
    cases read
    rw [listed] at tasksLoaded
    obtain ⟨each, distinct, -⟩ := tasksFrom_tells tasksLoaded told
    exact ⟨⟨first :: rest, default, listed, List.cons_ne_nil _ _, moded, each⟩, distinct⟩
  next => cases read

end Documents

end Config

end Timetable
