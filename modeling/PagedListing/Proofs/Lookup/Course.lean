import PagedListing.Proofs.Listing.Texts
import PagedListing.Proofs.Uuid.Canonical
import PagedListing.Proofs.Value.Writable
import PagedListing.Service

set_option autoImplicit false

/-!
# What a lookup executes and answers

A lookup selects one row by its identifier. Only when it has found one does it go on to the rows
that belong to it, and it always selects these by the identifier of the row that was found.
-/

namespace PagedListing

open PagedListing.Statement

/-- A statement that selects the rows of a projection under a single condition: one column
equals the value that is bound. -/
structure Statement.SelectsBy (statement : Statement) (projection : Projection)
    (column : String) (value : Value) (ordering : String) : Prop where
  text : statement.sql = "SELECT " ++ projection.selectList ++ " FROM " ++ projection.table ++
    " WHERE " ++ column ++ " = :p1" ++ ordering
  bound : statement.parameters = [("p1", value)]

def ChildTable.ownerColumn : ChildTable → String
  | .profileStages => "ps.profile_id"
  | .runStages => "s.run_id"
  | .runDecisions => "d.run_id"

def ChildTable.ordering : ChildTable → String
  | .profileStages => " ORDER BY ps.stage_name ASC"
  | .runStages => " ORDER BY s.created_at ASC"
  | .runDecisions => " ORDER BY d.created_at ASC"

/-- Text without marks around one placeholder is bound with the name of that placeholder. -/
theorem Builder.selectsBy {builder : Builder} {query : Query} {column ordering : String}
    {value : Value} (texts : ∀ text ∈ builder.projection.texts, Plain text)
    (plainColumn : Plain column) (plainOrdering : Plain ordering)
    (stop : startsWithDigit ordering.toList = false)
    (sql : query.sql =
      builder.selection ++ " WHERE " ++ column ++ " = " ++ placeholder 1 ++ ordering)
    (arguments : query.arguments = [value]) :
    query.bind.SelectsBy builder.projection column value ordering where
  text := by
    have front : Plain (builder.selection ++ " WHERE " ++ column ++ " = ") := by
      have condition := plain_join " WHERE " (by decide) (plain_selection texts) plainColumn
      have equation := plain_join " = " (by decide) condition plain_empty
      rwa [String.append_empty] at equation
    have mark : named (placeholder 1) = ":p1" := by decide +kernel
    calc query.bind.sql = named query.sql := rfl
      _ = named (builder.selection ++ " WHERE " ++ column ++ " = " ++ placeholder 1) ++
          named ordering := by rw [sql, named_append _ stop]
      _ = builder.selection ++ " WHERE " ++ column ++ " = " ++ named (placeholder 1) ++
          ordering := by
        rw [named_append _ (by decide +kernel), named_of_plain front,
          named_of_plain plainOrdering]
      _ = builder.selection ++ " WHERE " ++ column ++ " = :p1" ++ ordering := by
        have words : " = :p1" = " = " ++ ":p1" := rfl
        rw [mark, words]
        simp only [String.append_assoc]
  bound := by
    rw [Query.bind, arguments]
    rfl

namespace Lookup

theorem column_idField (resource : Resource) :
    resource.projection.column Resource.idField = resource.shortName ++ ".id" := by
  cases resource <;> decide +kernel

theorem selectsBy_query (resource : Resource) (id : Uuid) :
    (query resource id).bind.SelectsBy resource.projection (resource.shortName ++ ".id")
      (.text id.canonical) "" := by
  have idField : Plain Resource.idField := rfl
  have column := Projection.plain_column resource.plain_texts idField
  rw [column_idField] at column
  have sql : (query resource id).sql = (Builder.selection { projection := resource.projection }) ++
      " WHERE " ++ (resource.shortName ++ ".id") ++ " = " ++ placeholder 1 ++ "" := by
    rw [String.append_empty, ← column_idField]
    rfl
  have arguments : (query resource id).arguments = [.text id.canonical] := rfl
  exact Builder.selectsBy resource.plain_texts column plain_empty rfl sql arguments

theorem plain_texts_childTable (table : ChildTable) :
    ∀ text ∈ table.projection.texts, Plain text := by
  have unmarked : ∀ text ∈ table.projection.texts, Unmarked text.toList := by
    cases table <;> decide +kernel
  exact fun text member => plain_of_unmarked (unmarked text member)

theorem column_ownerField (table : ChildTable) :
    table.projection.column table.ownerField = table.ownerColumn := by
  cases table <;> decide +kernel

def owned (table : ChildTable) (text : String) : Builder :=
  Builder.refine { projection := table.projection, defaultSort := table.defaultSort }
    (.whereEquals table.ownerField (.text text))

theorem orderClause_owned (table : ChildTable) (text : String) :
    (owned table text).orderClause = table.ordering := by
  cases table <;> rfl

theorem selectsBy_owned (table : ChildTable) (text : String) :
    (owned table text).all.bind.SelectsBy table.projection table.ownerColumn (.text text)
      table.ordering := by
  have ownerField : Plain table.ownerField := by cases table <;> rfl
  have column := Projection.plain_column (plain_texts_childTable table) ownerField
  rw [column_ownerField] at column
  have ordering : Plain table.ordering := by cases table <;> rfl
  have stop : startsWithDigit table.ordering.toList = false := by cases table <;> rfl
  have clause : (owned table text).whereClause =
      " WHERE " ++ (table.ownerColumn ++ " = " ++ placeholder 1) := by
    rw [← column_ownerField]
    rfl
  have sql : (owned table text).all.sql = (owned table text).selection ++ " WHERE " ++
      table.ownerColumn ++ " = " ++ placeholder 1 ++ table.ordering := by
    rw [Builder.all, clause, orderClause_owned]
    simp only [String.append_assoc]
  have arguments : (owned table text).all.arguments = [.text text] := rfl
  exact Builder.selectsBy (plain_texts_childTable table) column ordering stop sql arguments

inductive Kind where
  | detail (resource : Resource)
  | stages
  | decisions
deriving Repr

namespace Kind

def resource : Kind → Resource
  | .detail resource => resource
  | .stages | .decisions => .runs

def table? : Kind → Option ChildTable
  | .detail .profiles => some .profileStages
  | .detail _ => none
  | .stages => some .runStages
  | .decisions => some .runDecisions

def call (id : String) : Kind → Service.Call
  | .detail _ => .find id
  | .stages => .stages id
  | .decisions => .decisions id

def shown (row : Record) (children : List Record) : Kind → Service.Answer
  | .detail _ => .row (row ++ [(stagesField, .list (children.map .record))])
  | .stages | .decisions => .rows children

def run (kind : Kind) (pagination : Option Pagination.Config) (environment : Environment)
    (id : String) (script : List Reply) : Except Failure Service.Answer × List Statement :=
  Session.run script (Service.answer ⟨kind.resource, pagination⟩ environment (kind.call id))

end Kind

def found (resource : Resource) (script : List Reply) : Except Failure Record :=
  ((Reply.outcome script.head?).bind (Session.firstRow resource.projection)).mapError
    (explain resource)

theorem steps_find_of_malformed {resource : Resource} {id : String}
    (malformed : Uuid.parse? id = none) (session : Session) :
    Session.steps (find resource id) session = (.error (.malformedId id), session) := by
  rw [find, malformed]
  rfl

theorem steps_find {resource : Resource} {id : String} {uuid : Uuid}
    (parsed : Uuid.parse? id = some uuid) (session : Session) :
    Session.steps (find resource id) session =
      (found resource session.script, session.next (query resource uuid)) := by
  rw [find, parsed]
  simp only [Session.steps_tryCatch, Session.steps_fetchOne]
  rfl

theorem steps_children (table : ChildTable) (row : Record) (session : Session) :
    Session.steps (children table row) session =
      match (idOf row).display? with
      | none => (.error .numeralTooLong, session)
      | some text =>
          ((Reply.outcome session.script.head?).bind fun rows =>
            rows.mapM table.projection.scan, session.next (owned table text).all) := by
  rw [children, ChildTable.builder?]
  cases (idOf row).display? with
  | none => rfl
  | some text => exact Session.steps_fetchMany _ _ _

/-- What a lookup goes on to do with the row that it has found. -/
def Kind.proceed (kind : Kind) (row : Record) : SessionM Service.Answer :=
  match kind.table? with
  | none => return .row row
  | some table => (kind.shown row ·) <$> children table row

theorem detail_childless {resource : Resource}
    (childless : (Kind.detail resource).table? = none) (id : String) :
    .row <$> detail resource id = find resource id >>= (Kind.detail resource).proceed := by
  have whole : detail resource id = find resource id >>= fun row => return row := by
    cases resource <;> first | rfl | cases childless
  have alone : (Kind.detail resource).proceed = fun row => return .row row := by
    funext row
    rw [Kind.proceed, childless]
  rw [whole, bind_pure, alone, bind_pure_comp]

theorem detail_profiles (id : String) :
    .row <$> detail .profiles id = find .profiles id >>= (Kind.detail .profiles).proceed := by
  rw [detail, map_bind]
  congr 1
  funext row
  simp only [bind_pure_comp, Functor.map_map]
  rfl

theorem runChildren_eq (table : ChildTable) (id : String) :
    .rows <$> runChildren table id =
      find .runs id >>= fun row => Service.Answer.rows <$> children table row := by
  rw [runChildren, map_bind]

/-- Every lookup finds its row first and then goes on from it. -/
theorem answer_call (kind : Kind) (pagination : Option Pagination.Config)
    (environment : Environment) (id : String) :
    Service.answer ⟨kind.resource, pagination⟩ environment (kind.call id) =
      find kind.resource id >>= kind.proceed := by
  cases kind with
  | detail resource =>
      cases resource with
      | profiles => exact detail_profiles id
      | _ => exact detail_childless rfl id
  | stages => exact runChildren_eq .runStages id
  | decisions => exact runChildren_eq .runDecisions id

namespace Kind

variable (kind : Kind) (pagination : Option Pagination.Config) (environment : Environment)
  {id : String}

theorem run_of_malformed (malformed : Uuid.parse? id = none) (script : List Reply) :
    kind.run pagination environment id script = (.error (.malformedId id), []) := by
  rw [run, answer_call, Session.run_eq_steps, Session.steps_bind,
    steps_find_of_malformed malformed]

def first (uuid : Uuid) : Statement := (query kind.resource uuid).bind

variable {uuid : Uuid}

theorem run_of_not_found (parsed : Uuid.parse? id = some uuid) {script : List Reply}
    {failure : Failure} (lost : found kind.resource script = .error failure) :
    kind.run pagination environment id script = (.error failure, [kind.first uuid]) := by
  rw [run, answer_call, Session.run_eq_steps, Session.steps_bind, steps_find parsed, lost]
  rfl

theorem run_of_found (parsed : Uuid.parse? id = some uuid) {script : List Reply} {row : Record}
    (gained : found kind.resource script = .ok row) :
    kind.run pagination environment id script =
      match kind.table? with
      | none => (.ok (.row row), [kind.first uuid])
      | some table =>
          match (idOf row).display? with
          | none => (.error .numeralTooLong, [kind.first uuid])
          | some text =>
              (((Reply.outcome script.tail.head?).bind fun rows =>
                rows.mapM table.projection.scan).map (kind.shown row ·),
                [kind.first uuid, (owned table text).all.bind]) := by
  rw [run, answer_call, Session.run_eq_steps, Session.steps_bind, steps_find parsed, gained]
  simp only [proceed]
  cases kind.table? with
  | none => rfl
  | some table =>
      simp only [Session.steps_map, steps_children]
      cases (idOf row).display? <;> rfl

/-- What a lookup leaves in the session and answers once its first statement has been replied to.
The reply decides which case it is. -/
inductive Course (script : List Reply) (first : Statement) :
    Except Failure Service.Answer × List Statement → Prop where
  | raised {failure : Failure} :
      Reply.outcome script.head? = .error failure → failure.isNotFound = false →
      Course script first (.error failure, [first])
  | missing :
      (Reply.outcome script.head? = .ok [] ∨
        ∃ failure, Reply.outcome script.head? = .error failure ∧ failure.isNotFound = true) →
      Course script first (.error (.missing kind.resource), [first])
  | misshapen {row : List Value} {rows : List (List Value)} {failure : Failure} :
      Reply.outcome script.head? = .ok (row :: rows) → row.length ≠ kind.resource.projection.size →
      kind.resource.projection.scan row = .error failure →
      Course script first (.error failure, [first])
  | alone {row : List Value} {rows : List (List Value)} :
      Reply.outcome script.head? = .ok (row :: rows) → row.length = kind.resource.projection.size →
      kind.table? = none →
      Course script first (.ok (.row (kind.resource.projection.names.zip row)), [first])
  | unwritable {id : Value} {cells : List Value} {rows : List (List Value)} {table : ChildTable} :
      Reply.outcome script.head? = .ok ((id :: cells) :: rows) →
      (id :: cells).length = kind.resource.projection.size → kind.table? = some table →
      id.display? = none → id.isWritable = false →
      Course script first (.error .numeralTooLong, [first])
  | followed {id : Value} {cells : List Value} {rows : List (List Value)} {table : ChildTable}
      {text : String} {second : Statement} :
      Reply.outcome script.head? = .ok ((id :: cells) :: rows) →
      (id :: cells).length = kind.resource.projection.size → kind.table? = some table →
      id.display? = some text →
      second.SelectsBy table.projection table.ownerColumn (.text text) table.ordering →
      Course script first
        (((Reply.outcome script.tail.head?).bind fun rows =>
            rows.mapM table.projection.scan).map
          (kind.shown (kind.resource.projection.names.zip (id :: cells)) ·), [first, second])

theorem idOf_zip (resource : Resource) (id : Value) (cells : List Value) :
    idOf (resource.projection.names.zip (id :: cells)) = id := by
  cases resource <;> rfl

theorem scan_of_not_wide {projection : Projection} {row : List Value}
    (odd : row.length ≠ projection.size) :
    ∃ failure, projection.scan row = .error failure ∧ failure.isNotFound = false := by
  refine ⟨projection.misfit row, Projection.scan_of_ne odd, ?_⟩
  unfold Projection.misfit
  split <;> rfl

theorem course_of_row (parsed : Uuid.parse? id = some uuid) {script : List Reply}
    {row : List Value} {rows : List (List Value)}
    (replied : Reply.outcome script.head? = .ok (row :: rows)) :
    Course kind script (kind.first uuid) (kind.run pagination environment id script) := by
  have read : found kind.resource script =
      (kind.resource.projection.scan row).mapError (explain kind.resource) := by
    rw [found, replied]
    rfl
  by_cases wide : row.length = kind.resource.projection.size
  · have scanned := Projection.scan_eq_ok_iff.mpr ⟨wide, rfl⟩
    rw [scanned] at read
    rw [run_of_found kind pagination environment parsed read]
    cases belongs : kind.table? with
    | none => exact .alone replied wide belongs
    | some table =>
        cases row with
        | nil =>
            have some : 0 < kind.resource.projection.size := by cases kind.resource <;> decide
            rw [← wide] at some
            cases some
        | cons id cells =>
            rw [idOf_zip]
            cases written : id.display? with
            | none =>
                have long : id.isWritable = false := by
                  rw [← Bool.not_eq_true]
                  intro writable
                  have shown := Value.isSome_display? writable
                  rw [written] at shown
                  cases shown
                exact .unwritable replied wide belongs written long
            | some text =>
                exact .followed replied wide belongs written (selectsBy_owned table text)
  · obtain ⟨failure, scanned, other⟩ := scan_of_not_wide wide
    have told : explain kind.resource failure = failure := by
      rw [explain, other]
      rfl
    have lost : found kind.resource script = .error failure := by
      rw [read, scanned]
      exact congrArg Except.error told
    rw [run_of_not_found kind pagination environment parsed lost]
    exact .misshapen replied wide scanned

theorem course_of_raised (parsed : Uuid.parse? id = some uuid) {script : List Reply}
    {failure : Failure} (replied : Reply.outcome script.head? = .error failure) :
    Course kind script (kind.first uuid) (kind.run pagination environment id script) := by
  have lost : found kind.resource script = .error (explain kind.resource failure) := by
    rw [found, replied]
    rfl
  rw [run_of_not_found kind pagination environment parsed lost, explain]
  cases missing : failure.isNotFound with
  | false => exact .raised replied missing
  | true => exact .missing (.inr ⟨failure, replied, missing⟩)

/-- A lookup whose identifier is malformed executes nothing. Any other selects the row with the
identifier first and takes its course from there. -/
theorem run_course (kind : Kind) (pagination : Option Pagination.Config)
    (environment : Environment) (id : String) (script : List Reply) :
    (Uuid.parse? id = none →
      kind.run pagination environment id script = (.error (.malformedId id), [])) ∧
    ∀ uuid, Uuid.parse? id = some uuid →
      Uuid.IsCanonical uuid.canonical ∧
        ∃ first : Statement,
          first.SelectsBy kind.resource.projection (kind.resource.shortName ++ ".id")
            (.text uuid.canonical) "" ∧
          Course kind script first (kind.run pagination environment id script) := by
  constructor
  · intro malformed
    exact run_of_malformed kind pagination environment malformed script
  · intro uuid parsed
    refine ⟨uuid.isCanonical, kind.first uuid, selectsBy_query kind.resource uuid, ?_⟩
    cases replied : Reply.outcome script.head? with
    | error failure => exact course_of_raised kind pagination environment parsed replied
    | ok rows =>
        cases rows with
        | nil =>
            have lost : found kind.resource script = .error (.missing kind.resource) := by
              rw [found, replied]
              rfl
            rw [run_of_not_found kind pagination environment parsed lost]
            exact .missing (.inl replied)
        | cons row rows => exact course_of_row kind pagination environment parsed replied

def nullProfile : List Reply :=
  [.rows [[.null, .text "w", .text "p", .null, .text "2024-01-01", .text "2024-01-01"]]]

def soughtId : Uuid := ⟨0x12345678123456781234567812345678, by decide⟩

theorem run_course_nullProfile :
    ∃ first second : Statement,
      (run (.detail .profiles) none [] "\x7b12345678-1234-5678-1234-567812345678\x7d"
        nullProfile).2 = [first, second] ∧
      first.SelectsBy Resource.profiles.projection "p.id"
        (.text "12345678-1234-5678-1234-567812345678") "" ∧
      second.SelectsBy ChildTable.profileStages.projection "ps.profile_id" (.text "None")
        " ORDER BY ps.stage_name ASC" := by
  have parsed : Uuid.parse? "\x7b12345678-1234-5678-1234-567812345678\x7d" = some soughtId := by
    decide +kernel
  have canonical : soughtId.canonical = "12345678-1234-5678-1234-567812345678" := by
    decide +kernel
  obtain ⟨-, known⟩ := run_course (.detail .profiles) none []
    "\x7b12345678-1234-5678-1234-567812345678\x7d" nullProfile
  obtain ⟨-, first, selects, course⟩ := known soughtId parsed
  rw [canonical] at selects
  generalize run (.detail .profiles) none [] "\x7b12345678-1234-5678-1234-567812345678\x7d"
    nullProfile = outcome at course
  cases course with
  | raised replied _ => cases replied
  | missing none => rcases none with replied | ⟨failure, replied, -⟩ <;> cases replied
  | misshapen replied odd _ =>
      cases replied
      exact absurd (by decide) odd
  | alone _ _ childless => cases childless
  | unwritable replied _ _ unwritten _ =>
      cases replied
      cases unwritten
  | followed replied _ belongs written second =>
      cases replied
      cases belongs
      cases written
      exact ⟨first, _, rfl, selects, second⟩

end Kind

end Lookup

end PagedListing
