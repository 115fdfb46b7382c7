import Locator.Command.Run
import Locator.Proofs.Bindings

/-! Where an expansion takes its bindings from: a file, a JSON text and assignments are read in this
order up to the first one that is wrong, and what is read later wins. -/

namespace Locator

section InTurn

variable {α β ε : Type} {read : α → Except ε β}

/-- All items are read exactly when each of them is. -/
theorem exists_mapM_iff {items : List α} :
    (∃ results, items.mapM read = .ok results) ↔
      ∀ item ∈ items, ∃ result, read item = .ok result := by
  induction items with
  | nil => exact ⟨fun _ item member => absurd member List.not_mem_nil, fun _ => ⟨[], rfl⟩⟩
  | cons item rest ih =>
    rw [List.forall_mem_cons, ← ih, List.mapM_cons]
    -- The first item is read, or else nothing more is.
    cases here : read item with
    | error fault => simp [bind, Except.bind]
    | ok result => cases more : rest.mapM read <;> simp [bind, Except.bind, pure, Except.pure]

/-- Of items that are not all read, the first one that is not gives the error. -/
theorem exists_of_mapM_error {items : List α} {fault : ε}
    (failed : items.mapM read = .error fault) :
    ∃ before item after, items = before ++ item :: after ∧
      (∀ earlier ∈ before, ∃ result, read earlier = .ok result) ∧ read item = .error fault := by
  induction items with
  | nil => cases failed
  | cons item rest ih =>
    rw [List.mapM_cons] at failed
    cases here : read item with
    | error cause =>
      rw [here] at failed
      cases failed
      -- The first item is the wrong one.
      exact ⟨[], item, rest, rfl, by simp, here⟩
    | ok result =>
      -- The error comes from an item behind the first one.
      cases more : rest.mapM read with
      | ok results => simp [here, more, bind, Except.bind, pure, Except.pure] at failed
      | error cause =>
        simp only [here, more, bind, Except.bind, Except.error.injEq] at failed
        obtain ⟨before, wrong, after, rfl, good, cause⟩ := ih (more.trans (by rw [failed]))
        refine ⟨item :: before, wrong, after, rfl, ?_, cause⟩
        rw [List.forall_mem_cons]
        exact ⟨⟨result, here⟩, good⟩

/-- Where every result tells what its item tells, so does the last one that tells anything. -/
theorem findSome?_reverse_of_mapM {γ : Type} {items : List α} {results : List β}
    (all : items.mapM read = .ok results) {tell : β → Option γ} {foretell : α → Option γ}
    (agree : ∀ item result, read item = .ok result → tell result = foretell item) :
    results.reverse.findSome? tell = items.reverse.findSome? foretell := by
  induction items generalizing results with
  | nil =>
    cases all
    rfl
  | cons item rest ih =>
    rw [List.mapM_cons] at all
    cases here : read item with
    -- Since everything was read, no item is wrong.
    | error fault => simp [here, bind, Except.bind] at all
    | ok result =>
      cases more : rest.mapM read with
      | error fault => simp [here, more, bind, Except.bind] at all
      | ok others =>
        simp only [here, more, bind, Except.bind, pure, Except.pure, Except.ok.injEq] at all
        -- The first item is asked last, when all behind it tell nothing.
        calc
          results.reverse.findSome? tell =
              (others.reverse.findSome? tell).or ([result].findSome? tell) := by
            rw [← all, List.reverse_cons, List.findSome?_append]
          _ = (rest.reverse.findSome? foretell).or ([item].findSome? foretell) := by
            rw [ih more]
            simp [agree item result here]
          _ = (item :: rest).reverse.findSome? foretell := by
            rw [List.reverse_cons, List.findSome?_append]

/-- A result that is there has been found. -/
theorem exists_of_isSome_toOption {result : Except ε β} (present : result.toOption.isSome) :
    ∃ found, result = .ok found := by
  -- An error leaves nothing.
  cases result with
  | error fault => cases present
  | ok found => exact ⟨found, rfl⟩

end InTurn

/-- Where bindings are taken from. -/
inductive Source where
  /-- A file of YAML or JSON. -/
  | file (path : String)
  /-- A JSON text. -/
  | json (text : String)
  /-- An assignment. -/
  | assignment (text : String)
  deriving DecidableEq, Repr

namespace Source

/-- The bindings that a source gives by itself. -/
def read (files : Files) : Source → Except BindingsError Bindings
  | file path => Bindings.load files path
  | json text => Bindings.readJson text
  | assignment text =>
    (Bindings.readAssignment text).map fun (name, value) => Bindings.empty.insert name value

/-- The sources of an expansion in the order in which they are read. -/
def all (file json : Option String) (assignments : List String) : List Source :=
  (file.map Source.file).toList ++ (json.map Source.json).toList
    ++ assignments.map Source.assignment

end Source

namespace Bindings

/-- The value of a name by the last of several sets of bindings that bind it. -/
def lastOf (name : String) (sets : List Bindings) : Option Value :=
  sets.reverse.findSome? (·.get? name)

/-- A further set of bindings is asked first. -/
theorem lastOf_concat (name : String) (sets : List Bindings) (last : Bindings) :
    lastOf name (sets ++ [last]) = (last.get? name).or (lastOf name sets) := by
  -- The sets are searched from the last one.
  rw [lastOf, List.reverse_append, List.findSome?_append]
  simp [lastOf]

/-- Bindings that hold what several sets hold, each over the ones before; or the same error. -/
inductive Gathers :
    Except BindingsError Bindings → Except BindingsError (List Bindings) → Prop where
  /-- Every name has the value that the last set gives it. -/
  | all {gathered : Bindings} {sets : List Bindings}
      (agree : ∀ name, gathered.get? name = lastOf name sets) : Gathers (.ok gathered) (.ok sets)
  /-- There is an error. -/
  | failure (error : BindingsError) : Gathers (.error error) (.error error)

/-- Nothing is bound by the last of no sets. -/
@[simp]
theorem lastOf_nil (name : String) : lastOf name [] = none := rfl

/-- Assignments go over the bindings before them, one after another. -/
theorem gathers_assign (files : Files) {known : Bindings} {sets : List Bindings}
    (agree : ∀ name, known.get? name = lastOf name sets) (assignments : List String) :
    Gathers (known.assign assignments)
      (((assignments.map Source.assignment).mapM (Source.read files)).map (sets ++ ·)) := by
  -- The induction is on the assignments to come, for all bindings that they may meet.
  induction assignments generalizing known sets with
  | nil =>
    refine .all ?_
    simpa using agree
  | cons assignment rest ih =>
    rw [List.map_cons, List.mapM_cons, assign, Source.read]
    cases here : readAssignment assignment with
    | error fault => exact .failure fault
    | ok named =>
      obtain ⟨bound, value⟩ := named
      -- Its binding is one more set, in front of all sets before it.
      have next : ∀ name, (known.insert bound value).get? name =
          lastOf name (sets ++ [empty.insert bound value]) := by
        intro name
        rw [lastOf_concat, get?_insert, get?_insert, agree]
        split <;> rfl
      have step := ih next
      cases more : (rest.map Source.assignment).mapM (Source.read files) with
      | error fault =>
        rw [more] at step
        exact step
      | ok others =>
        rw [more] at step
        simpa [Except.map, bind, Except.bind, pure, Except.pure] using step

/-- A JSON text goes over the bindings of the file. -/
theorem gathers_json (files : Files) {known : Bindings} {sets : List Bindings}
    (agree : ∀ name, known.get? name = lastOf name sets) (json : Option String) :
    Gathers ((match json with
        | some text => readJson text
        | none => .ok empty).map known.merge)
      (((json.map Source.json).toList.mapM (Source.read files)).map (sets ++ ·)) := by
  cases json with
  | none =>
    -- Without a JSON text no bindings are added.
    refine .all fun name => ?_
    simpa [merge, insertAll, empty] using agree name
  | some text =>
    simp only [Option.map_some, Option.toList_some, List.mapM_cons, List.mapM_nil, Source.read]
    cases here : readJson text with
    | error fault => exact .failure fault
    | ok found =>
      refine .all fun name => ?_
      rw [lastOf_concat, get?_merge known (areDistinct_of_readJson here), agree]

/-- The bindings of the file come first. -/
theorem gathers_file (files : Files) (file : Option String) :
    Gathers (match file with
        | some path => load files path
        | none => .ok empty)
      ((file.map Source.file).toList.mapM (Source.read files)) := by
  -- Without a file there is no source, and with one there is a single source.
  cases file with
  | none => exact .all fun name => rfl
  | some path =>
    simp only [Option.map_some, Option.toList_some, List.mapM_cons, List.mapM_nil, Source.read]
    cases load files path with
    | error fault => exact .failure fault
    | ok found =>
      refine .all fun name => ?_
      simp [lastOf]

/-- What is gathered on goes on from what is gathered so far. -/
theorem Gathers.bind {result : Except BindingsError Bindings}
    {sets : Except BindingsError (List Bindings)} (gathered : Gathers result sets)
    {next : Bindings → Except BindingsError Bindings}
    {more : List Bindings → Except BindingsError (List Bindings)}
    (goOn : ∀ known sets, (∀ name, known.get? name = lastOf name sets) →
      Gathers (next known) (more sets)) :
    Gathers (result.bind next) (sets.bind more) := by
  -- After an error both sides stop with that error.
  cases gathered with
  | all agree => exact goOn _ _ agree
  | failure error => exact .failure error

/-- Bindings are collected in three steps, one for each kind of source. -/
theorem collect_eq (files : Files) (file json : Option String) (assignments : List String) :
    collect files file json assignments =
      ((match file with
          | some path => load files path
          | none => .ok empty).bind fun known =>
        (match json with
          | some text => readJson text
          | none => .ok empty).map known.merge).bind fun known =>
      known.assign assignments := by
  unfold collect
  -- Each source that is not there counts as one without bindings.
  cases file with
  | none =>
    cases json with
    | none => rfl
    | some text =>
      dsimp only
      cases readJson text <;> rfl
  | some path =>
    dsimp only
    cases load files path with
    -- A wrong file ends the collecting, whatever comes behind it.
    | error fault => rfl
    | ok known =>
      cases json with
      | none => rfl
      | some text =>
        dsimp only
        cases readJson text <;> simp [bind, Except.bind, Except.map]

/-- Bindings are gathered from their sources. -/
theorem gathers_collect (files : Files) (file json : Option String) (assignments : List String) :
    Gathers (collect files file json assignments)
      ((Source.all file json assignments).mapM (Source.read files)) := by
  rw [collect_eq, Source.all, List.mapM_append, List.mapM_append]
  -- Each step starts from what the steps before it have gathered.
  have front := (gathers_file files file).bind fun known sets agree => gathers_json files agree json
  exact front.bind fun known sets agree => gathers_assign files agree assignments

/-- The text that an assignment gives a name: what stands behind its first equals sign. -/
def assignedBy? (name assignment : String) : Option String :=
  if assignment.toList.takeWhile (· ≠ '=') = name.toList then
    some (.ofList ((assignment.toList.dropWhile (· ≠ '=')).drop 1))
  else none

/-- The text that the last assignment to a name gives it. -/
def assigned? (name : String) (assignments : List String) : Option String :=
  assignments.reverse.findSome? (assignedBy? name)

/-- An assignment binds the name before its first equals sign, and nothing else. -/
theorem get?_of_readAssignment {assignment bound : String} {value : Value}
    (read : readAssignment assignment = .ok (bound, value)) (name : String) :
    (empty.insert bound value).get? name = (assignedBy? name assignment).map Value.scalar := by
  obtain ⟨-, absent, text, rfl, whole⟩ := readAssignment_eq_ok_iff.mp read
  -- No equals sign stands in the name, so the first one is that behind it.
  have passed : ∀ c ∈ bound.toList, decide (c ≠ '=') = true := fun c member =>
    decide_eq_true fun same => absent (same ▸ member)
  rw [get?_insert, assignedBy?, whole, List.takeWhile_append_of_pos passed,
    List.dropWhile_append_of_pos passed]
  by_cases same : name = bound
  · simp [same]
  · have other : ¬ bound.toList = name.toList := fun alike => same (String.toList_inj.mp alike).symm
    simp [same, other]

/-- An assignment is a source exactly when a name stands before its first equals sign. -/
theorem exists_read_assignment_iff {files : Files} {assignment : String} :
    (∃ bindings, (Source.assignment assignment).read files = .ok bindings) ↔
      '=' ∈ assignment.toList ∧ assignment.toList.head? ≠ some '=' := by
  constructor
  · rintro ⟨bindings, read⟩
    cases here : readAssignment assignment with
    | error fault =>
      rw [Source.read, here] at read
      cases read
    | ok named =>
      obtain ⟨filled, absent, text, -, whole⟩ := readAssignment_eq_ok_iff.mp here
      -- The name has a first character, and it is no equals sign.
      obtain ⟨first, others, spelled⟩ :=
        List.exists_cons_of_ne_nil (mt String.toList_eq_nil_iff.mp filled)
      rw [whole]
      refine ⟨by simp, fun same => absent ?_⟩
      rw [spelled] at same ⊢
      cases same
      exact List.mem_cons_self
  · rintro ⟨present, filled⟩
    -- The part before the first equals sign is not empty.
    cases split : splitFirst '=' assignment.toList with
    | none => exact absurd present (splitFirst_eq_none_iff.mp split)
    | some parts =>
      obtain ⟨before, after⟩ := parts
      obtain ⟨-, whole⟩ := splitFirst_eq_some_iff.mp split
      cases before with
      | nil => exact absurd (by rw [whole]; rfl) filled
      | cons first others => exact ⟨_, by rw [Source.read, readAssignment, split]; rfl⟩

/-- All sources can be read exactly when those of each kind can. -/
theorem forall_exists_read_iff {files : Files} {file json : Option String}
    {assignments : List String} :
    (∀ source ∈ Source.all file json assignments, ∃ bindings, source.read files = .ok bindings) ↔
      (∀ path ∈ file, ∃ bindings, load files path = .ok bindings) ∧
      (∀ text ∈ json, ∃ bindings, readJson text = .ok bindings) ∧
      ∀ assignment ∈ assignments,
        '=' ∈ assignment.toList ∧ assignment.toList.head? ≠ some '=' := by
  -- A file and a text are one source each at most, and every assignment is one.
  rw [Source.all, List.forall_mem_append, List.forall_mem_append, and_assoc, List.forall_mem_map]
  refine and_congr ?_ (and_congr ?_ (forall₂_congr fun _ _ => exists_read_assignment_iff))
  · cases file <;> simp [Source.read]
  · cases json <;> simp [Source.read]

/-- What all sources together bind, by the kind of the source. -/
theorem lastOf_of_read {files : Files} {file json : Option String} {assignments : List String}
    {sets : List Bindings}
    (all : (Source.all file json assignments).mapM (Source.read files) = .ok sets) (name : String) :
    lastOf name sets =
      ((assigned? name assignments).map Value.scalar).or
        ((json.bind fun text => (readJson text).toOption.bind (·.get? name)).or
          (file.bind fun path => (load files path).toOption.bind (·.get? name))) := by
  -- Each source binds a name by itself as its kind says, and the kinds come one after another.
  let told : Source → Option Value
    | .file path => (load files path).toOption.bind (·.get? name)
    | .json text => (readJson text).toOption.bind (·.get? name)
    | .assignment text => (assignedBy? name text).map Value.scalar
  have agree : ∀ source bindings, source.read files = .ok bindings →
      bindings.get? name = told source := by
    intro source bindings read
    cases source with
    | file path =>
      rw [Source.read] at read
      simp [told, read, Except.toOption]
    | json text =>
      rw [Source.read] at read
      simp [told, read, Except.toOption]
    | assignment text =>
      -- An assignment that was read binds one name and no other.
      rw [Source.read] at read
      cases here : readAssignment text with
      | error fault =>
        rw [here] at read
        cases read
      | ok named =>
        rw [here] at read
        cases read
        exact get?_of_readAssignment here name
  -- The last assignment of the name is the first one from behind.
  have assigned : (assignments.map Source.assignment).reverse.findSome? told =
      (assigned? name assignments).map Value.scalar := by
    rw [← List.map_reverse, List.findSome?_map, assigned?, List.map_findSome?]
    rfl
  calc
    lastOf name sets = (Source.all file json assignments).reverse.findSome? told :=
      findSome?_reverse_of_mapM all agree
    _ = ((assignments.map Source.assignment).reverse.findSome? told).or
        (((json.map Source.json).toList.reverse.findSome? told).or
          ((file.map Source.file).toList.reverse.findSome? told)) := by
      rw [Source.all, List.reverse_append, List.findSome?_append, List.reverse_append,
        List.findSome?_append]
    _ = ((assigned? name assignments).map Value.scalar).or
        ((json.bind fun text => (readJson text).toOption.bind (·.get? name)).or
          (file.bind fun path => (load files path).toOption.bind (·.get? name))) := by
      rw [assigned]
      cases json <;> cases file <;> simp [told]

end Bindings

namespace Command

open Bindings

/-- An expansion is answered exactly when all of its sources can be read. Then a name has the value
of its last assignment, or else that of the JSON text, or else that of the file. If not, the error
is that of the first source that cannot be read. -/
theorem answer_expand {files : Files} {arguments : List String} {template : String}
    {file json : Option String} {assignments : List String} {verbose : Bool}
    (accepted : Command.read arguments =
      .ok ⟨.expand template file json assignments, verbose⟩) :
    ((∃ told, answer files arguments = .ok told) ↔
      (∀ path ∈ file, ∃ bindings, load files path = .ok bindings) ∧
      (∀ text ∈ json, ∃ bindings, readJson text = .ok bindings) ∧
      ∀ assignment ∈ assignments,
        '=' ∈ assignment.toList ∧ assignment.toList.head? ≠ some '=') ∧
    (∀ told, answer files arguments = .ok told →
      ∃ bindings, told = (Locator.expand template bindings, verbose) ∧
        ∀ name, bindings.get? name =
          ((assigned? name assignments).map Value.scalar).or
            ((json.bind fun text => (readJson text).toOption.bind (·.get? name)).or
              (file.bind fun path => (load files path).toOption.bind (·.get? name)))) ∧
    (∀ error, answer files arguments = .error error →
      ∃ before source after cause, Source.all file json assignments = before ++ source :: after ∧
        (∀ earlier ∈ before, ∃ bindings, earlier.read files = .ok bindings) ∧
        source.read files = .error cause ∧ error = .bindings cause) := by
  -- The command line is accepted, so that only its bindings can fail.
  have answered : answer files arguments =
      ((collect files file json assignments).mapError CommandError.bindings).map fun bindings =>
        (Locator.expand template bindings, verbose) := by
    rw [answer, accepted]
    change ((run files (.expand template file json assignments)).map (·, verbose)) = _
    rw [Command.run]
    cases collect files file json assignments <;> rfl
  have whole := gathers_collect files file json assignments
  rw [answered, ← @forall_exists_read_iff files, ← exists_mapM_iff]
  generalize collect files file json assignments = collected at whole ⊢
  cases all : (Source.all file json assignments).mapM (Source.read files) with
  -- All sources are read, and their sets are gathered.
  | ok sets =>
    rw [all] at whole
    cases whole with
    | all agree =>
      refine ⟨iff_of_true ⟨_, rfl⟩ ⟨sets, rfl⟩, ?_, fun error failed => by cases failed⟩
      intro told given
      cases given
      exact ⟨_, rfl, fun name => (agree name).trans (lastOf_of_read all name)⟩
  -- Some source cannot be read, and the first such source is told.
  | error cause =>
    rw [all] at whole
    cases whole with
    | failure =>
      refine ⟨iff_of_false ?_ (by simp), ?_, ?_⟩
      · rintro ⟨told, given⟩
        cases given
      · intro told given
        cases given
      · intro error given
        cases given
        obtain ⟨before, source, after, order, good, wrong⟩ := exists_of_mapM_error all
        exact ⟨before, source, after, cause, order, good, wrong, rfl⟩

/-- Names that are bound by one source, by two and by all three of them, with an assignment that has
two equals signs and comes after another one to the same name. -/
theorem answer_expand_of_every_source :
    ∃ files arguments bindings,
      Command.read arguments = .ok ⟨.expand "/\x7bx,y,z,w\x7d" (some "v.yml")
        (some "\x7b\"x\": \"json\", \"y\": \"json\"\x7d") ["x=1", "x=a=b"], false⟩ ∧
      answer files arguments = .ok (Locator.expand "/\x7bx,y,z,w\x7d" bindings, false) ∧
      bindings.get? "x" = some (.scalar "a=b") ∧ bindings.get? "y" = some (.scalar "json") ∧
      bindings.get? "z" = some (.scalar "file") ∧ bindings.get? "w" = none := by
  let files : Files := fun _ =>
    .ok (Utf8.encode "\x7b\"x\": \"file\", \"z\": \"file\"\x7d".toList)
  let arguments := ["expand", "-f", "v.yml", "-sx=1", "/\x7bx,y,z,w\x7d",
    "--json=\x7b\"x\": \"json\", \"y\": \"json\"\x7d", "-s", "x=a=b"]
  have accepted : Command.read arguments = .ok ⟨.expand "/\x7bx,y,z,w\x7d" (some "v.yml")
      (some "\x7b\"x\": \"json\", \"y\": \"json\"\x7d") ["x=1", "x=a=b"], false⟩ := rfl
  obtain ⟨given, bound, -⟩ := @answer_expand files _ _ _ _ _ _ accepted
  have loaded : ∃ found, load files "v.yml" = .ok found :=
    exists_of_isSome_toOption (by decide +kernel)
  have read : ∃ found, readJson "\x7b\"x\": \"json\", \"y\": \"json\"\x7d" = .ok found :=
    exists_of_isSome_toOption (by decide +kernel)
  -- All three kinds of source can be read.
  obtain ⟨told, answered⟩ := given.mpr ⟨by simpa using loaded, by simpa using read, by decide⟩
  obtain ⟨bindings, rfl, values⟩ := bound told answered
  exact ⟨files, arguments, bindings, accepted, answered,
    (values "x").trans (by decide +kernel), (values "y").trans (by decide +kernel),
    (values "z").trans (by decide +kernel), (values "w").trans (by decide +kernel)⟩

end Command

end Locator
