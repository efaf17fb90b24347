/-
Dialogues that search: they ask questions in a fixed order and end with the
first reply that is accepted.

# Courses

`Searched` is the course of a search. Each constructor is one way to go on:
nothing is left to ask, a reply is accepted, or it is not and the rest is
asked. What a course says of the requests as a whole is read off it by
induction: they follow the plan from its start (`Searched.follows_plan`), no
reply but the last is accepted (`Searched.refused_before_last`), and nothing is
found exactly if no reply is accepted (`Searched.eq_none_iff`), which takes the
whole plan (`Searched.whole_plan`).

# Dialogues

`Searches` ties a dialogue to a plan, whatever server it meets in whatever
state. One search after the other asks the one plan and then the other
(`Searches.orElse`), so a plugin's plan is put together the way its search is.
-/
import HostTelemetry.Proofs.Http.Exchanges

namespace HostTelemetry.Http

-- ============================================================== courses

/-- How questions are put, and which replies to them are accepted. -/
structure Inquiry (ι : Type) where
  request : ι → Request
  Accepts : ι → Reply → Prop

variable {ι α β : Type} {q : Inquiry ι}

/-- A question that was put, with what came of it. -/
def Inquiry.exchange (q : Inquiry ι) (a : ι × Reply) : Exchange := ⟨q.request a.1, a.2⟩

/-- How a search through a plan can go: what is asked, with the replies, and
what is found. -/
inductive Searched (q : Inquiry ι) (result : ι → α) :
    List ι → List (ι × Reply) → Option α → Prop where
  | exhausted : Searched q result [] [] none
  | hit {i : ι} {reply : Reply} (rest : List ι) (h : q.Accepts i reply) :
      Searched q result (i :: rest) [(i, reply)] (some (result i))
  | miss {i : ι} {reply : Reply} {rest : List ι} {asked : List (ι × Reply)} {found : Option α}
      (h : ¬ q.Accepts i reply) (hrest : Searched q result rest asked found) :
      Searched q result (i :: rest) ((i, reply) :: asked) found

namespace Searched

variable {result : ι → α} {plan plan' : List ι} {asked asked' : List (ι × Reply)}
  {found : Option α}

/-- The questions are those of the plan, in its order, from the first on. -/
theorem follows_plan (h : Searched q result plan asked found) :
    asked.map Prod.fst <+: plan := by
  induction h with
  | exhausted => exact List.nil_prefix
  | hit rest _ => exact List.cons_prefix_cons.mpr ⟨rfl, List.nil_prefix⟩
  | miss _ _ ih => exact List.cons_prefix_cons.mpr ⟨rfl, ih⟩

theorem refused_before_last (h : Searched q result plan asked found) :
    ∀ a ∈ asked.dropLast, ¬ q.Accepts a.1 a.2 := by
  induction h with
  | exhausted => simp
  | hit rest _ => simp
  | @miss i reply rest asked found hmiss _ ih =>
    intro a ha
    cases asked with
    | nil => simp at ha
    | cons next later =>
      rw [List.dropLast_cons_of_ne_nil (List.cons_ne_nil _ _)] at ha
      rcases List.mem_cons.mp ha with rfl | hlater
      · exact hmiss
      · exact ih a hlater

theorem eq_none_iff (h : Searched q result plan asked found) :
    found = none ↔ ∀ a ∈ asked, ¬ q.Accepts a.1 a.2 := by
  induction h with
  | exhausted => simp
  | hit rest hhit => simpa using hhit
  | miss hmiss _ ih =>
    rw [ih, List.forall_mem_cons]
    exact (and_iff_right hmiss).symm

/-- A search that finds nothing has asked all there is to ask. -/
theorem whole_plan (h : Searched q result plan asked none) : asked.map Prod.fst = plan := by
  generalize hfound : (none : Option α) = found at h
  induction h with
  | exhausted => rfl
  | hit rest _ => cases hfound
  | miss _ _ ih => rw [List.map_cons, ih hfound]

/-- What is found is what the last question was about. -/
theorem last_accepted {a : α} (h : Searched q result plan asked (some a)) :
    ∃ last, asked.getLast? = some last ∧ q.Accepts last.1 last.2 ∧ a = result last.1 := by
  generalize hfound : some a = found at h
  induction h with
  | exhausted => cases hfound
  | hit rest hhit => exact ⟨_, rfl, hhit, Option.some.inj hfound⟩
  | miss _ _ ih =>
    obtain ⟨last, hlast, haccepts⟩ := ih hfound
    exact ⟨last, by rw [List.getLast?_cons, hlast]; rfl, haccepts⟩

/-- A search that has found something leaves the rest of a longer plan. -/
theorem some_append {a : α} (h : Searched q result plan asked (some a)) (plan' : List ι) :
    Searched q result (plan ++ plan') asked (some a) := by
  generalize hfound : some a = found at h ⊢
  induction h with
  | exhausted => cases hfound
  | hit rest hhit => exact .hit _ hhit
  | miss hmiss _ ih => exact .miss hmiss (ih hfound)

/-- A search that has found nothing goes on with the rest of a longer plan. -/
theorem none_append (h : Searched q result plan asked none)
    (h' : Searched q result plan' asked' found) :
    Searched q result (plan ++ plan') (asked ++ asked') found := by
  generalize hfound : (none : Option α) = nothing at h
  induction h with
  | exhausted => exact h'
  | hit rest _ => cases hfound
  | miss hmiss _ ih => exact .miss hmiss (ih hfound)

theorem map {result' : ι → β} {f : α → β} (h : Searched q result plan asked found)
    (hf : ∀ i ∈ plan, result' i = f (result i)) :
    Searched q result' plan asked (found.map f) := by
  induction h with
  | exhausted => exact .exhausted
  | hit rest hhit =>
    rw [Option.map_some, ← hf _ List.mem_cons_self]
    exact .hit rest hhit
  | miss hmiss _ ih => exact .miss hmiss (ih fun i hi => hf i (List.mem_cons_of_mem _ hi))

end Searched

-- ============================================================ dialogues

namespace Dialogue

variable {σ : Type} {srv : Server σ} {result : ι → α} {plan plan' : List ι}

/-- A dialogue searches through a plan, from wherever it starts. -/
def Searches (srv : Server σ) (q : Inquiry ι) (result : ι → α) (d : Dialogue (Option α))
    (plan : List ι) : Prop :=
  ∀ s, ∃ asked, d.exchanges srv s = asked.map q.exchange ∧
    Searched q result plan asked (d.run srv s).1

theorem Searches.nothing : Searches srv q result (.done none) [] :=
  fun _ => ⟨[], rfl, .exhausted⟩

/-- A question gets some reply, and the dialogue goes on with it. -/
theorem exchange_step (srv : Server σ) (r : Request) (next : Reply → Dialogue α)
    (s : Scene σ) :
    ∃ reply s', (exchange r next).exchanges srv s = ⟨r, reply⟩ :: (next reply).exchanges srv s' ∧
      (exchange r next).run srv s = (next reply).run srv s' :=
  ⟨_, _, rfl, rfl⟩

/-- One question, and the rest of the plan if its reply is not accepted. -/
theorem Searches.ask {i : ι} {next : Reply → Dialogue (Option α)}
    (hhit : ∀ reply, q.Accepts i reply → next reply = .done (some (result i)))
    (hmiss : ∀ reply, ¬ q.Accepts i reply → Searches srv q result (next reply) plan) :
    Searches srv q result (.exchange (q.request i) next) (i :: plan) := by
  intro s
  obtain ⟨reply, s', hlog, hrun⟩ := exchange_step srv (q.request i) next s
  rw [hlog, hrun]
  by_cases haccepts : q.Accepts i reply
  · rw [hhit reply haccepts]
    exact ⟨[(i, reply)], rfl, .hit plan haccepts⟩
  · obtain ⟨asked, hlog', hsearched⟩ := hmiss reply haccepts s'
    refine ⟨(i, reply) :: asked, ?_, .miss haccepts hsearched⟩
    rw [hlog']
    rfl

/-- One search, and another if it finds nothing. -/
theorem Searches.orElse {d : Dialogue (Option α)} {next : Option α → Dialogue (Option β)}
    {result' : ι → β} {f : α → β} (hd : Searches srv q result d plan)
    (hf : ∀ i ∈ plan, result' i = f (result i))
    (hsome : ∀ a, next (some a) = .done (some (f a)))
    (hnone : Searches srv q result' (next none) plan') :
    Searches srv q result' (d.bind next) (plan ++ plan') := by
  intro s
  obtain ⟨asked, hlog, hsearched⟩ := hd s
  rw [exchanges_bind, run_bind, hlog]
  cases hfound : (d.run srv s).1 with
  | some a =>
    rw [hfound] at hsearched
    rw [hsome a]
    exact ⟨asked, by rw [exchanges, List.append_nil], (hsearched.map hf).some_append plan'⟩
  | none =>
    rw [hfound] at hsearched
    obtain ⟨asked', hlog', hsearched'⟩ := hnone (d.run srv s).2
    exact ⟨asked ++ asked', by rw [hlog', List.map_append],
      (hsearched.map hf).none_append hsearched'⟩

end Dialogue

-- =============================================================== probes

/-- A probe asks for one page after the other, and finds the address of the
first that is accepted. -/
theorem searches_probeEach {σ : Type} {srv : Dialogue.Server σ} {path : String}
    {accept : Sighting → Bool} {base : ι → String} (plan : List ι)
    (hrequest : ∀ i ∈ plan, q.request i = probeRequest (base i ++ path))
    (haccept : ∀ i ∈ plan, ∀ reply,
      q.Accepts i reply ↔ (reply.sighting?.map accept).getD false = true) :
    Dialogue.Searches srv q base (probeEach path accept (plan.map base)) plan := by
  induction plan with
  | nil => exact .nothing
  | cons i rest ih =>
    have hi := haccept i List.mem_cons_self
    have hrest := ih (fun j hj => hrequest j (List.mem_cons_of_mem _ hj))
      (fun j hj => haccept j (List.mem_cons_of_mem _ hj))
    rw [List.map_cons, probeEach]
    rw [← hrequest i List.mem_cons_self]
    apply Dialogue.Searches.ask
    · intro reply haccepts
      rw [if_pos ((hi reply).mp haccepts)]
    · intro reply haccepts
      rw [if_neg fun h => haccepts ((hi reply).mpr h)]
      exact hrest

end HostTelemetry.Http
