import Mathlib.Data.Nat.Find
import Mathlib.Data.Nat.Init
import Mathlib.Logic.Function.Basic

/-!
Tasks that take turns at a state they share.

A task is the tree of what it does step by step; each step sees the whole state and changes it at
once.  In a pool any task may take the next step.  What a task knows of the state goes by what it
holds there, and a step is allowed when it leaves every other task what that one knows.  So a task
that only takes such steps can count on what it knows, whoever else is at work.
-/

namespace SegmentOffload

/-- What is left of a task: its answer, or a step and what follows from the state it finds. -/
inductive Steps (σ α : Type) where
  | done (answer : α)
  | step (next : σ → Steps σ α) (change : σ → σ)

namespace Steps

variable {σ τ α β : Type}

/-- All steps in a row, with nobody else at work. -/
def run : Steps σ α → σ → α × σ
  | done answer, state => (answer, state)
  | step next change, state => run (next state) (change state)

def bind : Steps σ α → (α → Steps σ β) → Steps σ β
  | done answer, rest => rest answer
  | step next change, rest => step (fun state => bind (next state) rest) change

/-- A call that takes one step. -/
def call (act : σ → α × σ) : Steps σ α :=
  step (fun state => done (act state).1) fun state => (act state).2

/-- A task with a part of the state of its own, which the others do not see. -/
def withOwn (get : σ → τ) (put : τ → σ → σ) : τ → Steps σ α → Steps σ (α × τ)
  | own, done answer => done (answer, own)
  | own, step next change =>
    step (fun state => withOwn get put (get (change (put own state))) (next (put own state)))
      fun state => put (get state) (change (put own state))

theorem run_call (act : σ → α × σ) (state : σ) : (call act).run state = act state := rfl

theorem run_bind (task : Steps σ α) (rest : α → Steps σ β) (state : σ) :
    (task.bind rest).run state = (rest (task.run state).1).run (task.run state).2 := by
  induction task generalizing state with
  | done answer => rfl
  | step next change ih => exact ih state (change state)

theorem withOwn_bind (get : σ → τ) (put : τ → σ → σ) (own : τ) (task : Steps σ α)
    (rest : α → Steps σ β) :
    (task.bind rest).withOwn get put own =
      (task.withOwn get put own).bind fun result => (rest result.1).withOwn get put result.2 := by
  induction task generalizing own with
  | done answer => rfl
  | step next change ih =>
    have onward := funext fun state => ih (put own state) (get (change (put own state)))
    exact congrArg (fun next => step next fun state => put (get state) (change (put own state)))
      onward

/-- A part of its own makes no difference to a task that is alone. -/
theorem run_withOwn (get : σ → τ) (put : τ → σ → σ)
    (put_get : ∀ state, put (get state) state = state)
    (put_put : ∀ own other state, put own (put other state) = put own state)
    (get_put : ∀ own state, get (put own state) = own) (own : τ) (task : Steps σ α) (state : σ) :
    (task.withOwn get put own).run state =
      (((task.run (put own state)).1, get (task.run (put own state)).2),
        put (get state) (task.run (put own state)).2) := by
  induction task generalizing own state with
  | done answer => simp only [withOwn, run, get_put, put_put, put_get]
  | step next change ih =>
    simp only [withOwn, run]
    rw [ih, put_put, put_get, get_put]

end Steps

/-! ### Disciplines -/

/-- What tasks that share a state can count on.  A task may hold something of its own there. -/
structure Discipline (ι κ σ : Type) where
  /-- What a task knows of the state, by what it holds. -/
  knows : ι → κ → σ → Prop
  /-- Two tasks do not hold the same. -/
  apart : κ → κ → Prop
  apart_symm : ∀ {held others}, apart held others → apart others held

/-- A change by a task that holds something, and something else afterwards.  The others still know
what they knew. -/
structure Discipline.Allows {ι κ σ : Type} (rules : Discipline ι κ σ) (task : ι) (held after : κ)
    (now later : σ) : Prop where
  own : rules.knows task after later
  others : ∀ other others, task ≠ other → rules.knows other others now →
    rules.apart held others → rules.knows other others later ∧ rules.apart after others

namespace Steps

variable {ι κ σ α β : Type} {rules : Discipline ι κ σ} {task : ι} {held : κ} {post : α → κ → Prop}

/-- Whatever the others do before, between and after its steps, each step of the task is allowed and
it ends as it should. -/
def Meets (rules : Discipline ι κ σ) (task : ι) (post : α → κ → Prop) : Steps σ α → κ → Prop
  | done answer, held => post answer held
  | step next change, held => ∀ now, rules.knows task held now →
    ∃ after, rules.Allows task held after now (change now) ∧ Meets rules task post (next now) after

theorem Meets.bind {further : β → κ → Prop} {steps : Steps σ α} {rest : α → Steps σ β}
    (meets : steps.Meets rules task post held)
    (onward : ∀ answer held, post answer held → (rest answer).Meets rules task further held) :
    (steps.bind rest).Meets rules task further held := by
  induction steps generalizing held with
  | done answer => exact onward answer held meets
  | step next change ih =>
    intro now known
    obtain ⟨after, allowed, later⟩ := meets now known
    exact ⟨after, allowed, ih now later⟩

theorem Meets.mono {weaker : α → κ → Prop} {steps : Steps σ α}
    (meets : steps.Meets rules task post held)
    (weaken : ∀ answer held, post answer held → weaker answer held) :
    steps.Meets rules task weaker held := by
  induction steps generalizing held with
  | done answer => exact weaken answer held meets
  | step next change ih =>
    intro now known
    obtain ⟨after, allowed, later⟩ := meets now known
    exact ⟨after, allowed, ih now later⟩

/-- What a task does while it is alone is allowed as a whole. -/
theorem Meets.run {steps : Steps σ α} {state : σ} (meets : steps.Meets rules task post held)
    (known : rules.knows task held state) :
    ∃ after, post (steps.run state).1 after ∧
      rules.Allows task held after state (steps.run state).2 := by
  induction steps generalizing held state with
  | done answer => exact ⟨held, meets, known, fun _ _ _ knows apart => ⟨knows, apart⟩⟩
  | step next change ih =>
    obtain ⟨middle, first, onward⟩ := meets state known
    obtain ⟨after, ended, second⟩ := ih state onward first.own
    refine ⟨after, ended, second.own, ?_⟩
    intro other others distinct knows apart
    obtain ⟨still, between⟩ := first.others other others distinct knows apart
    exact second.others other others distinct still between

end Steps

/-! ### Pools -/

/-- Tasks at a state that they share. -/
structure Pool (σ α : Type) where
  tasks : List (Steps σ α)
  state : σ

namespace Pool

variable {κ σ α : Type}

/-- One task takes a step, if it has one to take. -/
def step (pool : Pool σ α) (index : Nat) : Pool σ α :=
  match pool.tasks[index]? with
  | some (.step next change) =>
    ⟨pool.tasks.set index (next pool.state), change pool.state⟩
  | _ => pool

/-- The tasks take steps in the order that is given. -/
def run (pool : Pool σ α) (schedule : List Nat) : Pool σ α :=
  schedule.foldl step pool

def answer? (pool : Pool σ α) (index : Nat) : Option α :=
  match pool.tasks[index]? with
  | some (.done answer) => some answer
  | _ => none

theorem tasks_step_of_ne (pool : Pool σ α) {index other : Nat} (apart : other ≠ index) :
    (pool.step index).tasks[other]? = pool.tasks[other]? := by
  unfold step
  split
  · exact List.getElem?_set_ne (Ne.symm apart)
  · rfl

theorem length_step (pool : Pool σ α) (index : Nat) :
    (pool.step index).tasks.length = pool.tasks.length := by
  unfold step
  split
  · exact List.length_set
  · rfl

theorem length_run (pool : Pool σ α) (schedule : List Nat) :
    (pool.run schedule).tasks.length = pool.tasks.length := by
  induction schedule generalizing pool with
  | nil => rfl
  | cons index rest ih => exact (ih (pool.step index)).trans (pool.length_step index)

theorem run_append (pool : Pool σ α) (first second : List Nat) :
    pool.run (first ++ second) = (pool.run first).run second :=
  List.foldl_append

/-! ### Every task keeps what it promises -/

/-- Every task meets what it should from here on, and no two hold the same. -/
structure Obeys (rules : Discipline Nat κ σ) (post : Nat → α → κ → Prop) (held : Nat → κ)
    (pool : Pool σ α) : Prop where
  knows : ∀ index < pool.tasks.length, rules.knows index (held index) pool.state
  meets : ∀ index (steps : Steps σ α), pool.tasks[index]? = some steps →
    steps.Meets rules index (post index) (held index)
  apart : ∀ index other, index ≠ other → index < pool.tasks.length → other < pool.tasks.length →
    rules.apart (held index) (held other)

variable {rules : Discipline Nat κ σ} {post : Nat → α → κ → Prop} {held : Nat → κ}
  {pool : Pool σ α}

theorem Obeys.step (obeys : pool.Obeys rules post held) (index : Nat) :
    ∃ held, (pool.step index).Obeys rules post held := by
  unfold Pool.step
  split
  · rename_i next change found
    obtain ⟨inside, _⟩ := List.getElem?_eq_some_iff.mp found
    obtain ⟨after, allowed, onward⟩ :=
      obeys.meets index _ found pool.state (obeys.knows index inside)
    have others (other : Nat) (distinct : index ≠ other) (below : other < pool.tasks.length) :=
      allowed.others other (held other) distinct (obeys.knows other below)
        (obeys.apart index other distinct inside below)
    have same : Function.update held index after index = after := Function.update_self ..
    have kept {other : Nat} (distinct : index ≠ other) :
        Function.update held index after other = held other :=
      Function.update_of_ne (Ne.symm distinct) ..
    refine ⟨Function.update held index after, ?_, ?_, ?_⟩
    · intro other below
      rw [List.length_set] at below
      by_cases here : index = other
      · rw [← here, same]
        exact allowed.own
      · rw [kept here]
        exact (others other here below).1
    · intro other steps there
      by_cases here : index = other
      · rw [← here, List.getElem?_set_self inside] at there
        cases there
        rw [← here, same]
        exact onward
      · rw [List.getElem?_set_ne here] at there
        rw [kept here]
        exact obeys.meets other steps there
    · intro one other distinct belowOne belowOther
      rw [List.length_set] at belowOne belowOther
      by_cases first : index = one
      · have second : index ≠ other := by rw [first]; exact distinct
        rw [← first, same, kept second]
        exact (others other second belowOther).2
      · by_cases second : index = other
        · rw [← second, same, kept first]
          exact rules.apart_symm (others one first belowOne).2
        · rw [kept first, kept second]
          exact obeys.apart one other distinct belowOne belowOther
  · exact ⟨held, obeys⟩

theorem Obeys.run (obeys : pool.Obeys rules post held) (schedule : List Nat) :
    ∃ held, (pool.run schedule).Obeys rules post held := by
  induction schedule generalizing pool held with
  | nil => exact ⟨held, obeys⟩
  | cons index rest ih =>
    obtain ⟨after, stepped⟩ := obeys.step index
    exact ih stepped

/-- A task that has ended has ended as it should, and what it knows then stays so. -/
theorem Obeys.answered (obeys : pool.Obeys rules post held) {index : Nat} {answer : α}
    (answered : pool.answer? index = some answer) :
    post index answer (held index) ∧ rules.knows index (held index) pool.state := by
  unfold answer? at answered
  split at answered
  · rename_i found
    cases answered
    obtain ⟨inside, _⟩ := List.getElem?_eq_some_iff.mp found
    exact ⟨obeys.meets index _ found, obeys.knows index inside⟩
  · cases answered

/-! ### Every task comes to an end -/

/-- The tasks that take the first steps of an endless schedule. -/
def firstSteps (picks : Nat → Nat) (count : Nat) : List Nat :=
  (List.range count).map picks

/-- Every task is picked again and again. -/
def IsFair (picks : Nat → Nat) (tasks : Nat) : Prop :=
  ∀ index < tasks, ∀ count, ∃ later, count ≤ later ∧ picks later = index

theorem run_firstSteps_succ (pool : Pool σ α) (picks : Nat → Nat) (count : Nat) :
    pool.run (firstSteps picks (count + 1)) = (pool.run (firstSteps picks count)).step
      (picks count) := by
  rw [firstSteps, List.range_succ, List.map_append, run_append]
  rfl

/-- Steps of others leave a task as it is. -/
theorem tasks_firstSteps (pool : Pool σ α) (picks : Nat → Nat) {index start count : Nat}
    (later : start ≤ count) (others : ∀ turn, start ≤ turn → turn < count → picks turn ≠ index) :
    (pool.run (firstSteps picks count)).tasks[index]? =
      (pool.run (firstSteps picks start)).tasks[index]? := by
  induction count, later using Nat.le_induction with
  | base => rfl
  | succ count later ih =>
    rw [run_firstSteps_succ, tasks_step_of_ne]
    · exact ih fun turn from' below => others turn from' (Nat.lt_succ_of_lt below)
    · exact Ne.symm (others count later (Nat.lt_succ_self count))

theorem answer?_firstSteps {picks : Nat → Nat} {index start : Nat} {answer : α}
    (answered : (pool.run (firstSteps picks start)).answer? index = some answer) {count : Nat}
    (later : start ≤ count) :
    (pool.run (firstSteps picks count)).answer? index = some answer := by
  induction count, later using Nat.le_induction with
  | base => exact answered
  | succ count _ ih =>
    rw [run_firstSteps_succ]
    by_cases here : index = picks count
    · have found := ih
      unfold answer? at found
      split at found
      · rename_i there
        cases found
        rw [step, ← here, there]
        exact ih
      · cases found
    · rw [answer?, tasks_step_of_ne _ here]
      exact ih

/-- A task that is picked again and again comes to its end, for each of its steps leaves less of it. -/
theorem exists_answer (pool : Pool σ α) {picks : Nat → Nat} {index : Nat}
    (again : ∀ count, ∃ later, count ≤ later ∧ picks later = index) {steps : Steps σ α}
    {start : Nat} (found : (pool.run (firstSteps picks start)).tasks[index]? = some steps) :
    ∃ count, ((pool.run (firstSteps picks count)).answer? index).isSome := by
  induction steps generalizing start with
  | done answer =>
    refine ⟨start, ?_⟩
    rw [answer?, found]
    rfl
  | step next change ih =>
    have due : ∃ gap, picks (start + gap) = index := by
      obtain ⟨later, after, picked⟩ := again start
      exact ⟨later - start, by rw [Nat.add_sub_cancel' after]; exact picked⟩
    let gap := Nat.find due
    have others : ∀ turn, start ≤ turn → turn < start + gap → picks turn ≠ index := by
      intro turn from' below picked
      have shorter : turn - start < Nat.find due := by omega
      exact Nat.find_min due shorter (by rw [Nat.add_sub_cancel' from']; exact picked)
    have still := pool.tasks_firstSteps picks (Nat.le_add_right start gap) others
    rw [found] at still
    obtain ⟨inside, _⟩ := List.getElem?_eq_some_iff.mp still
    let now := pool.run (firstSteps picks (start + gap))
    have less : (pool.run (firstSteps picks (start + gap + 1))).tasks[index]? =
        some (next now.state) := by
      rw [run_firstSteps_succ, Nat.find_spec due, step, still]
      exact List.getElem?_set_self inside
    exact ih now.state less

/-- When every task is picked again and again, all have ended at some time. -/
theorem all_answered (pool : Pool σ α) {picks : Nat → Nat}
    (fair : IsFair picks pool.tasks.length) :
    ∃ count, ∀ index < pool.tasks.length,
      ((pool.run (firstSteps picks count)).answer? index).isSome := by
  have upTo : ∀ bound ≤ pool.tasks.length, ∃ count, ∀ index < bound,
      ((pool.run (firstSteps picks count)).answer? index).isSome := by
    intro bound
    induction bound with
    | zero =>
      intro _
      exact ⟨0, fun index impossible => absurd impossible (Nat.not_lt_zero index)⟩
    | succ bound ih =>
      intro within
      obtain ⟨count, earlier⟩ := ih (Nat.le_of_succ_le within)
      have begun : (pool.run (firstSteps picks 0)).tasks[bound]? = some pool.tasks[bound] :=
        List.getElem?_eq_getElem within
      obtain ⟨own, ended⟩ := pool.exists_answer (fair bound within) begun
      refine ⟨max count own, ?_⟩
      intro index below
      have known : ∃ start ≤ max count own,
          ((pool.run (firstSteps picks start)).answer? index).isSome := by
        rcases Nat.lt_succ_iff_lt_or_eq.mp below with lower | rfl
        · exact ⟨count, Nat.le_max_left _ _, earlier index lower⟩
        · exact ⟨own, Nat.le_max_right _ _, ended⟩
      obtain ⟨start, before, answered⟩ := known
      obtain ⟨answer, given⟩ := Option.isSome_iff_exists.mp answered
      rw [answer?_firstSteps given before]
      rfl
  exact upTo _ (Nat.le_refl _)

end Pool

end SegmentOffload
