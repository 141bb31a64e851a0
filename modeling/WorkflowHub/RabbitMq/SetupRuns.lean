import WorkflowHub.Processes.Scripts
import WorkflowHub.RabbitMq.System

/-!
# What one setup does

Whatever the broker replies, a setup tries to connect up to five times and then follows its
script, up to the first operation that is rejected. It never throws; when it logs a failure
after it has connected, it has not closed the connection (`setup_runs_iff`).
-/

set_option autoImplicit false

namespace WorkflowHub.RabbitMq

open Processes Amqp

abbrev SetupExchange : Type := Exchange (promises Op Op.Value Thrown) Unit

/-- The broker may reply anything, and timers fire. -/
def replies (_ : Unit) (op : Op) (_ : Unit) (reply : Except Thrown op.Value) (_ : Unit) : Prop :=
  ∀ milliseconds error, op = .setTimeout milliseconds → reply ≠ .error error

/-- What is awaited once the setup is connected. -/
def scriptRest (table : List Triplet) : List Op :=
  .createChannel :: (declarations table).map .declare ++ [.closeChannel, .closeConnection]

/-- What is awaited when nothing is rejected. -/
def script (table : List Triplet) : List Op := .connect :: scriptRest table

/-- The connects that are rejected with these errors, and the pauses after them. -/
def refusals (errors : List Thrown) : List SetupExchange :=
  errors.flatMap fun error =>
    [⟨Op.connect, (), .error error⟩, ⟨Op.setTimeout 5000, (), .ok ()⟩]

/-- What is logged in the end. -/
def report : Option Thrown → Except Thrown Logged
  | none => .ok completed
  | some error => .ok (.error ("RabbitMQ topology setup failed: " ++ error.message))

section Runs

variable {table : List Triplet} {exchanges : List SetupExchange} {out : Except Thrown Logged}

theorem scripted_await (pc : Pc) {ops : List Op}
    (rejected : ∀ error, Led.next table pc (.error error) = Led.failed error)
    (resolved : ∀ value, Scripted (flow table) () report ops (Led.next table pc (.ok value))) :
    Scripted (flow table) () report (pc.op :: ops) ((), .running pc) :=
  .await (fun error _ => ⟨(), rejected error⟩) fun value _ => resolved value

theorem scripted_declare : ∀ rest : List Declaration,
    Scripted (flow table) () report (rest.map .declare ++ [.closeChannel, .closeConnection])
      (Led.declare rest)
  | [] => by
      refine scripted_await .closingChannel (fun _ => rfl) fun _ => ?_
      exact scripted_await .closingConnection (fun _ => rfl) fun _ => .done
  | declaration :: rest =>
      scripted_await (.declaring declaration rest) (fun _ => rfl) fun _ => scripted_declare rest

theorem scripted_connected :
    Scripted (flow table) () report (scriptRest table) ((), .running .creatingChannel) :=
  scripted_await .creatingChannel (fun _ => rfl) fun _ => scripted_declare _

theorem not_setTimeout {op : Op} (scripted : op ∈ scriptRest table) (reply : Except Thrown op.Value) :
    replies () op () reply () := by
  rintro milliseconds error rfl
  simp [scriptRest] at scripted

/-- The executions of a setup that may try this often again: after the refusals it follows the
script, where the first connect of the script is rejected only if it was the last attempt. -/
def Attempts (table : List Triplet) (retries : ℕ) (exchanges : List SetupExchange)
    (out : Except Thrown Logged) : Prop :=
  ∃ refused rest error?, exchanges = refusals refused ++ rest ∧ refused.length ≤ retries ∧
    ((∃ error, rest = [⟨Op.connect, (), .error error⟩]) → refused.length = retries) ∧
    Follows (script table) rest error? ∧ out = report error?

/-- An attempt that succeeds. -/
theorem executes_connected {rest : List SetupExchange} :
    Executes replies (flow table) () () ((), .running .creatingChannel) rest out () ↔
      ∃ error?, Follows (scriptRest table) rest error? ∧ out = report error? :=
  scripted_connected.executes_iff (fun _ scripted _ reply => not_setTimeout scripted reply) rest out

/-- The exchanges of a setup that connects with its next attempt. -/
def ConnectsNow (table : List Triplet) (exchanges : List SetupExchange) (out : Except Thrown Logged) :
    Prop :=
  ∃ value rest error?, exchanges = ⟨Op.connect, (), .ok value⟩ :: rest ∧
    Follows (scriptRest table) rest error? ∧ out = report error?

/-- With the last attempt the script begins. -/
theorem attempts_zero : Attempts table 0 exchanges out ↔
    ConnectsNow table exchanges out ∨
      ∃ error, exchanges = [⟨Op.connect, (), .error error⟩] ∧ out = report (some error) := by
  constructor
  · rintro ⟨refused, rest, error?, rfl, few, _, follows, rfl⟩
    obtain rfl := List.length_eq_zero_iff.mp (Nat.le_zero.mp few)
    cases follows with
    | @rejected _ _ _ error => exact .inr ⟨error, rfl, rfl⟩
    | @resolved _ _ _ value rest _ follows => exact .inl ⟨value, rest, error?, rfl, follows, rfl⟩
  · rintro (⟨value, rest, error?, rfl, follows, rfl⟩ | ⟨error, rfl, rfl⟩)
    · exact ⟨[], _, error?, rfl, Nat.le_refl 0, fun _ => rfl, .resolved follows, rfl⟩
    · exact ⟨[], _, some error, rfl, Nat.le_refl 0, fun _ => rfl, .rejected, rfl⟩

/-- With more attempts left, a connect that is rejected is followed by a pause. -/
theorem attempts_succ {retries : ℕ} : Attempts table (retries + 1) exchanges out ↔
    ConnectsNow table exchanges out ∨
      ∃ error rest, exchanges = ⟨Op.connect, (), .error error⟩ ::
        ⟨Op.setTimeout 5000, (), .ok ()⟩ :: rest ∧ Attempts table retries rest out := by
  constructor
  · rintro ⟨refused, rest, error?, rfl, few, all, follows, rfl⟩
    cases refused with
    | nil =>
        cases follows with
        | @rejected _ _ _ error => cases all ⟨error, rfl⟩
        | @resolved _ _ _ value rest _ follows =>
            exact .inl ⟨value, rest, error?, rfl, follows, rfl⟩
    | cons error refused =>
        refine .inr ⟨error, refusals refused ++ rest, rfl, refused, rest, error?, rfl, ?_, ?_,
          follows, rfl⟩
        · exact Nat.le_of_succ_le_succ few
        · exact fun last => Nat.succ.inj (all last)
  · rintro (⟨value, rest, error?, rfl, follows, rfl⟩ |
      ⟨error, _, rfl, refused, rest, error?, rfl, few, all, follows, rfl⟩)
    · refine ⟨[], _, error?, rfl, Nat.zero_le _, fun last => ?_, .resolved follows, rfl⟩
      obtain ⟨error, same⟩ := last
      cases same
    · exact ⟨error :: refused, rest, error?, rfl, Nat.succ_le_succ few,
        fun last => congrArg (· + 1) (all last), follows, rfl⟩

/-- The setup awaits an operation. -/
theorem executes_running (pc : Pc) :
    Executes replies (flow table) () () ((), .running pc) exchanges out () ↔
      ∃ reply rest, exchanges = ⟨pc.op, (), reply⟩ :: rest ∧ replies () pc.op () reply () ∧
        Executes replies (flow table) () () (Led.next table pc reply) rest out () := by
  constructor
  · intro executes
    obtain ⟨_, reply, _, _, rest, rfl, answered, executes⟩ := executes.of_running
    exact ⟨reply, rest, rfl, answered, executes⟩
  · rintro ⟨reply, rest, rfl, answered, executes⟩
    have runs : Executes replies (flow table) () () ((), .running pc)
        (⟨(flow table).op () pc, (), reply⟩ :: rest) out () := .running () answered executes
    exact runs

/-- An attempt connects, or the setup goes on from its error. -/
theorem executes_connect (retries : ℕ) :
    Executes replies (flow table) () () ((), .running (.connecting retries)) exchanges out () ↔
      ConnectsNow table exchanges out ∨
        ∃ error rest, exchanges = ⟨Op.connect, (), .error error⟩ :: rest ∧
          Executes replies (flow table) () ()
            (Led.next table (.connecting retries) (.error error)) rest out () := by
  have anything (reply : Except Thrown Unit) : replies () .connect () reply () := by
    intro milliseconds error timer
    cases timer
  rw [executes_running]
  constructor
  · rintro ⟨reply, rest, rfl, _, executes⟩
    cases reply with
    | ok value =>
        obtain ⟨error?, follows, ended⟩ := executes_connected.mp executes
        exact .inl ⟨value, rest, error?, rfl, follows, ended⟩
    | error error => exact .inr ⟨error, rest, rfl, executes⟩
  · rintro (⟨value, rest, error?, rfl, follows, ended⟩ | ⟨error, rest, rfl, executes⟩)
    · exact ⟨.ok value, rest, rfl, anything _, executes_connected.mpr ⟨error?, follows, ended⟩⟩
    · exact ⟨.error error, rest, rfl, anything _, executes⟩

theorem executes_failed {error : Thrown} :
    Executes replies (flow table) () () (Led.failed error) exchanges out () ↔
      exchanges = [] ∧ out = report (some error) := by
  constructor
  · intro executes
    obtain ⟨none, ended, _⟩ := executes.of_finished
    exact ⟨none, ended⟩
  · rintro ⟨rfl, rfl⟩
    exact .finished

/-- The pause ends. -/
theorem executes_waiting {retries : ℕ} :
    Executes replies (flow table) () () ((), .running (.waiting retries)) exchanges out () ↔
      ∃ rest, exchanges = ⟨Op.setTimeout 5000, (), .ok ()⟩ :: rest ∧
        Executes replies (flow table) () () ((), .running (.connecting retries)) rest out () := by
  rw [executes_running]
  constructor
  · rintro ⟨reply, rest, rfl, fires, executes⟩
    cases reply with
    | ok value => exact ⟨rest, rfl, executes⟩
    | error error => exact absurd rfl (fires 5000 error rfl)
  · rintro ⟨rest, rfl, executes⟩
    refine ⟨.ok (), rest, rfl, fun _ error _ same => ?_, executes⟩
    cases same

/-- With one attempt more than these. -/
theorem executes_connecting : ∀ (retries : ℕ) (exchanges : List SetupExchange),
    Executes replies (flow table) () () ((), .running (.connecting (retries + 1))) exchanges out () ↔
      Attempts table retries exchanges out := by
  intro retries
  induction retries with
  | zero =>
      intro exchanges
      rw [attempts_zero, executes_connect]
      refine or_congr_right (exists_congr fun error => ?_)
      constructor
      · rintro ⟨rest, rfl, executes⟩
        obtain ⟨rfl, ended⟩ := executes_failed.mp executes
        exact ⟨rfl, ended⟩
      · rintro ⟨rfl, ended⟩
        exact ⟨[], rfl, executes_failed.mpr ⟨rfl, ended⟩⟩
  | succ retries ih =>
      intro exchanges
      rw [attempts_succ, executes_connect]
      refine or_congr_right (exists_congr fun error => ?_)
      constructor
      · rintro ⟨_, rfl, executes⟩
        obtain ⟨rest, rfl, later⟩ := executes_waiting.mp executes
        exact ⟨rest, rfl, (ih rest).mp later⟩
      · rintro ⟨rest, rfl, attempts⟩
        exact ⟨_, rfl, executes_waiting.mpr ⟨rest, rfl, (ih rest).mpr attempts⟩⟩

/-- **What one setup awaits and logs.** For every table and all replies: at most four connects
that are rejected, each followed by a pause, then the script up to the first rejection, which is
that of a fifth connect or of an operation on the connection. The setup never throws, and what is
logged tells whether the script has ended. -/
theorem setup_runs_iff {table : List Triplet} {exchanges : List SetupExchange}
    {out : Except Thrown Logged} :
    Executes replies (programs table) () () ((programs table).enter () ()) exchanges out () ↔
      Attempts table 4 exchanges out :=
  ⟨fun executes => (executes_connecting 4 exchanges).mp ((implements table).executes executes),
    fun attempts => (implements table).executed ((executes_connecting 4 exchanges).mpr attempts)⟩

end Runs

end WorkflowHub.RabbitMq
