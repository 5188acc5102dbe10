import ShellDebugger.Host.Plan

/-!
# Runs of composed plans

A plan made of parts runs as its parts run, one after another. `Plan.Ensures` says of a plan and of
the trace before it that every run is safe after each call and ends as a postcondition says. It is
computed from the plan call by call, so a composed plan is reasoned about part by part, and
`Ensures.of_runs` leads back to the traces. Nothing is assumed of an answer that the terms do not
state.
-/

namespace ShellDebugger.Plan

variable {α β : Type}

/-! ## Laws of composition -/

theorem andThen_assoc {γ : Type} (plan : Plan α) (f : α → Plan β) (g : β → Plan γ) :
    (plan.andThen f).andThen g = plan.andThen fun value ↦ (f value).andThen g := by
  induction plan with
  | done value => rfl
  | ask c next ih =>
    simp only [andThen]
    congr 1
    funext answer
    exact ih answer

theorem andThen_done (plan : Plan α) : plan.andThen .done = plan := by
  induction plan with
  | done value => rfl
  | ask c next ih =>
    simp only [andThen]
    congr 1
    funext answer
    exact ih answer

instance : LawfulMonad Plan :=
  LawfulMonad.mk' Plan andThen_done (fun _ _ ↦ rfl) andThen_assoc

@[simp] theorem runs_pure_iff {value result : α} {trace : List Event} :
    Runs (pure value) trace result ↔ trace = [] ∧ result = value := by
  constructor
  · intro hrun
    cases hrun
    exact ⟨rfl, rfl⟩
  · rintro ⟨rfl, rfl⟩
    exact .done result

@[simp] theorem runs_call_iff {c : Call} {answer : c.Answer} {trace : List Event} :
    Runs (call c) trace answer ↔ trace = [⟨c, answer⟩] := by
  constructor
  · intro hrun
    cases hrun with
    | ask answer hrest =>
      cases hrest
      rfl
  · rintro rfl
    exact .ask answer (.done answer)

theorem runs_bind_iff {plan : Plan α} {f : α → Plan β} {trace : List Event} {result : β} :
    Runs (plan >>= f) trace result ↔
      ∃ first value rest, Runs plan first value ∧ Runs (f value) rest result ∧
        trace = first ++ rest := by
  change Runs (plan.andThen f) trace result ↔ _
  induction plan generalizing trace with
  | done value =>
    constructor
    · intro hrun
      exact ⟨[], value, trace, .done value, hrun, rfl⟩
    · rintro ⟨first, value', rest, hfirst, hrest, rfl⟩
      cases hfirst
      exact hrest
  | ask c next ih =>
    constructor
    · intro hrun
      cases hrun with
      | ask answer hrun =>
        obtain ⟨first, value, rest, hfirst, hrest, htrace⟩ := (ih answer).mp hrun
        exact ⟨_, value, rest, .ask answer hfirst, hrest, by rw [htrace, List.cons_append]⟩
    · rintro ⟨first, value, rest, hfirst, hrest, rfl⟩
      cases hfirst with
      | ask answer hfirst =>
        exact .ask answer ((ih answer).mpr ⟨_, value, rest, hfirst, hrest, rfl⟩)

/-- A call is made, and the rest runs as the answer has it. -/
theorem runs_call_bind_iff {c : Call} {f : c.Answer → Plan β} {trace : List Event} {result : β} :
    Runs (call c >>= f) trace result ↔
      ∃ answer rest, Runs (f answer) rest result ∧ trace = ⟨c, answer⟩ :: rest := by
  rw [runs_bind_iff]
  constructor
  · rintro ⟨first, answer, rest, hcall, hrest, rfl⟩
    rw [runs_call_iff.mp hcall]
    exact ⟨answer, rest, hrest, rfl⟩
  · rintro ⟨answer, rest, hrest, rfl⟩
    exact ⟨[⟨c, answer⟩], answer, rest, runs_call_iff.mpr rfl, hrest, rfl⟩

theorem runs_bind_pure_iff {plan : Plan α} {f : α → β} {trace : List Event} {result : β} :
    Runs (plan >>= fun value ↦ pure (f value)) trace result ↔
      ∃ value, Runs plan trace value ∧ result = f value := by
  rw [runs_bind_iff]
  constructor
  · rintro ⟨first, value, rest, hplan, hrest, rfl⟩
    obtain ⟨rfl, rfl⟩ := runs_pure_iff.mp hrest
    rw [List.append_nil]
    exact ⟨value, hplan, rfl⟩
  · rintro ⟨value, hplan, rfl⟩
    exact ⟨trace, value, [], hplan, runs_pure_iff.mpr ⟨rfl, rfl⟩, (List.append_nil trace).symm⟩

/-! ## What every run ensures -/

/-- The terms on which plans are judged: the answers that may come, and what must hold of the trace
after each call. -/
structure Terms where
  expects : Event → Prop
  safe : List Event → Prop

/-- Terms that expect any answer and ask for nothing on the way. -/
def Terms.any : Terms := ⟨fun _ ↦ True, fun _ ↦ True⟩

/-- Every run of a plan after the trace `past` is safe after each call and ends as `post` says, of
its value and of the whole trace. -/
def Ensures (terms : Terms) : Plan α → List Event → (α → List Event → Prop) → Prop
  | .done value, past, post => post value past
  | .ask c next, past, post => ∀ answer : c.Answer, terms.expects ⟨c, answer⟩ →
      terms.safe (past ++ [⟨c, answer⟩]) ∧
        Ensures terms (next answer) (past ++ [⟨c, answer⟩]) post

variable {terms : Terms} {past : List Event}

@[simp] theorem ensures_pure_iff {value : α} {post : α → List Event → Prop} :
    Ensures terms (pure value) past post ↔ post value past := Iff.rfl

@[simp] theorem ensures_call_iff {c : Call} {post : c.Answer → List Event → Prop} :
    Ensures terms (call c) past post ↔ ∀ answer : c.Answer, terms.expects ⟨c, answer⟩ →
      terms.safe (past ++ [⟨c, answer⟩]) ∧ post answer (past ++ [⟨c, answer⟩]) := Iff.rfl

@[simp] theorem ensures_bind_iff {plan : Plan α} {f : α → Plan β} {post : β → List Event → Prop} :
    Ensures terms (plan >>= f) past post ↔
      Ensures terms plan past fun value past ↦ Ensures terms (f value) past post := by
  change Ensures terms (plan.andThen f) past post ↔ _
  induction plan generalizing past with
  | done value => rfl
  | ask c next ih =>
    simp only [andThen, Ensures]
    exact forall_congr' fun answer ↦ imp_congr_right fun _ ↦ and_congr_right fun _ ↦ ih answer

theorem Ensures.mono {plan : Plan α} {post post' : α → List Event → Prop}
    (h : Ensures terms plan past post) (hpost : ∀ value past, post value past → post' value past) :
    Ensures terms plan past post' := by
  induction plan generalizing past with
  | done value => exact hpost value past h
  | ask c next ih =>
    intro answer hexpected
    exact ⟨(h answer hexpected).1, ih answer (h answer hexpected).2⟩

/-- A part ensures what the parts after it start from. -/
theorem Ensures.bind {plan : Plan α} {f : α → Plan β} {mid : α → List Event → Prop}
    {post : β → List Event → Prop} (h : Ensures terms plan past mid)
    (hnext : ∀ value past, mid value past → Ensures terms (f value) past post) :
    Ensures terms (plan >>= f) past post :=
  ensures_bind_iff.mpr (h.mono hnext)

/-- A run only adds to the trace before it. -/
theorem Ensures.and_extends {plan : Plan α} {post : α → List Event → Prop}
    (h : Ensures terms plan past post) :
    Ensures terms plan past fun value past' ↦ past <+: past' ∧ post value past' := by
  induction plan generalizing past with
  | done value => exact And.intro (List.prefix_refl past) h
  | ask c next ih =>
    intro answer hexpected
    obtain ⟨hsafe, hrest⟩ := h answer hexpected
    refine ⟨hsafe, (ih answer hrest).mono fun value past' hpost ↦ ⟨?_, hpost.2⟩⟩
    exact (List.prefix_append past _).trans hpost.1

/-- On terms that ask for nothing, what holds of every value is ensured. -/
theorem ensures_of_forall {plan : Plan α} {post : α → List Event → Prop}
    (hpost : ∀ value past, post value past) : Ensures .any plan past post := by
  induction plan generalizing past with
  | done value => exact hpost value past
  | ask c next ih => exact fun answer _ ↦ ⟨trivial, ih answer⟩

/-- On terms that ask for nothing, a part of which nothing is known may stand before any other. -/
theorem ensures_any_bind {plan : Plan α} {f : α → Plan β} {post : β → List Event → Prop}
    (hnext : ∀ value past, Ensures .any (f value) past post) :
    Ensures .any (plan >>= f) past post :=
  ensures_bind_iff.mpr (ensures_of_forall hnext)

/-- A part may be followed by either of two plans that agree on what is ensured of its value. -/
theorem Ensures.bind_congr {plan : Plan α} {f g : α → Plan β} {P : α → Prop}
    (h : Ensures .any plan [] fun value _ ↦ P value)
    (hagree : ∀ value, P value → f value = g value) : plan >>= f = plan >>= g := by
  change plan.andThen f = plan.andThen g
  generalize ([] : List Event) = past at h
  induction plan generalizing past with
  | done value => exact hagree value h
  | ask c next ih =>
    simp only [andThen]
    congr 1
    funext answer
    exact ih answer _ (h answer trivial).2

/-- The traces with which runs of a plan begin, whether or not they end. -/
inductive Begins : Plan α → List Event → Prop
  | start (plan : Plan α) : Begins plan []
  | ask {c : Call} {next : c.Answer → Plan α} (answer : c.Answer) {trace : List Event} :
      Begins (next answer) trace → Begins (.ask c next) (⟨c, answer⟩ :: trace)

theorem Runs.begins {plan : Plan α} {trace : List Event} {value : α}
    (hrun : Runs plan trace value) : Begins plan trace := by
  induction hrun with
  | done value => exact .start _
  | ask answer _ ih => exact .ask answer ih

/-- A run that gets the expected answers is safe as far as it goes. -/
theorem Ensures.safe_of_begins {plan : Plan α} {post : α → List Event → Prop} {trace : List Event}
    (h : Ensures terms plan past post) (hbegins : Begins plan trace)
    (hexpects : ∀ event ∈ trace, terms.expects event) (hsafe : terms.safe past) :
    terms.safe (past ++ trace) := by
  induction hbegins generalizing past with
  | start plan =>
    rw [List.append_nil]
    exact hsafe
  | ask answer _ ih =>
    have hstep := h answer (hexpects _ List.mem_cons_self)
    rw [List.append_cons]
    exact ih hstep.2 (fun event hevent ↦ hexpects event (List.mem_cons_of_mem _ hevent)) hstep.1

/-- A run that gets the expected answers ends as was ensured. -/
theorem Ensures.of_runs {plan : Plan α} {post : α → List Event → Prop} {trace : List Event}
    {value : α} (h : Ensures terms plan past post) (hrun : Runs plan trace value)
    (hexpects : ∀ event ∈ trace, terms.expects event) : post value (past ++ trace) := by
  induction hrun generalizing past with
  | done value =>
    rw [List.append_nil]
    exact h
  | ask answer _ ih =>
    have hstep := h answer (hexpects _ List.mem_cons_self)
    rw [List.append_cons]
    exact ih hstep.2 fun event hevent ↦ hexpects event (List.mem_cons_of_mem _ hevent)

/-- So does a run with nothing before it. -/
theorem Ensures.of_runs_nil {plan : Plan α} {post : α → List Event → Prop} {trace : List Event}
    {value : α} (h : Ensures terms plan [] post) (hrun : Runs plan trace value)
    (hexpects : ∀ event ∈ trace, terms.expects event) : post value trace :=
  h.of_runs hrun hexpects

end ShellDebugger.Plan
