import RankAdvisor.Advice.Provider
import RankAdvisor.Proofs.AdviceRetries
import RankAdvisor.Proofs.FeedFailures

/-! # How a provider's call ends

`Provider.complete` sends one request and sorts what comes back. This module follows a call
on a wire that answers at once (a wire in `Id`), for every outcome of its request: a failure
of the wire, or an answer with a whole-number status.

A status of 401 or 403 is a refused credential; any other client error but 429 is a refused
request that carries its status; 429 and the server errors are transport failures that carry
theirs. Every other status is taken as a success, 600 and above included, since only 400 to
599 count as errors: the body is then read, and the call returns the text at the provider's
path, or fails as unreadable when the body is not JSON, lacks the path, or holds no text
there.

`complete_answer` says once everything a call can end with on such an answer (`AnswerFault`,
`AnswerText`); the statements for each kind of outcome follow from it.
-/

namespace RankAdvisor

set_option autoImplicit false

theorem FaultKind.eq_wire_of_isWire {k : FaultKind} (h : k.isWire = true) : ∃ w, k = .wire w := by
  cases k with
  | wire w => exact ⟨w, rfl⟩
  | _ => cases h

/-! ## Whole-number statuses -/

theorem Json.le_int (a b : Int) : Json.le (.int a) (.int b) = .ok (decide (a ≤ b)) := by
  simp only [Json.le, Pool.order_int, bind, Except.bind, pure, Except.pure]
  rcases Int.lt_trichotomy a b with hab | rfl | hab
  · simp [Int.compare_eq_lt.2 hab, Int.le_of_lt hab]
  · simp
  · simp [Int.compare_eq_gt.2 hab, Int.not_le.2 hab]

theorem Json.sameValue_int (a b : Int) : Json.sameValue (.int a) (.int b) = decide (a = b) := by
  simp only [Json.sameValue, Json.number?, Pool.compare?_whole, Option.some_beq_some]
  rcases Int.lt_trichotomy a b with hab | rfl | hab
  · simp [Int.compare_eq_lt.2 hab, Int.ne_of_lt hab]
  · simp
  · simp [Int.compare_eq_gt.2 hab, Int.ne_of_gt hab]

namespace Http.Response

variable {r : Response} {k : Int}

theorem statusWithin_of_int (h : r.status = .int k) (lo hi : Int) :
    r.statusWithin lo hi = .ok (decide (lo ≤ k ∧ k < hi)) := by
  simp only [statusWithin, h, Json.le_int, bind, Except.bind]
  by_cases hlo : lo ≤ k
  · simp [hlo, Pool.lt_int]
  · simp [hlo, pure, Except.pure]

theorem statusText_of_int (h : r.status = .int k) :
    ∃ t, r.statusText = .ok t ∧ t.isNone = decide (k < 400 ∨ 600 ≤ k) := by
  simp only [statusText, statusWithin_of_int h, bind, Except.bind]
  by_cases h1 : 400 ≤ k ∧ k < 500
  · refine ⟨_, by simp only [h1]; rfl, ?_⟩
    simp only [Option.isNone_some, Bool.false_eq, decide_eq_false_iff_not]
    omega
  by_cases h2 : 500 ≤ k ∧ k < 600
  · refine ⟨_, by simp only [h1, h2, decide_false]; rfl, ?_⟩
    simp only [Option.isNone_some, Bool.false_eq, decide_eq_false_iff_not]
    omega
  · refine ⟨_, by simp only [h1, h2, decide_false]; rfl, ?_⟩
    simp only [Option.isNone_none, Bool.true_eq, decide_eq_true_iff]
    omega

theorem ok_of_int (h : r.status = .int k) : r.ok = .ok (decide (k < 400 ∨ 600 ≤ k)) := by
  obtain ⟨t, ht, hnone⟩ := statusText_of_int h
  rw [ok, ht, ← hnone]
  rfl

end Http.Response

/-! ## Calls on a wire that answers at once -/

/-- What a call ends with: a value satisfying `Q`, or a fault satisfying `P`. -/
def Settles {α : Type} (P : Fault → Prop) (Q : α → Prop) : Except Fault α → Prop
  | .ok a => Q a
  | .error f => P f

namespace Settles

variable {α β : Type} {P : Fault → Prop} {Q : α → Prop} {R : β → Prop}

theorem ok_iff {a : α} : Settles P Q (.ok a) ↔ Q a := Iff.rfl

theorem error_iff {f : Fault} : Settles P Q (.error f) ↔ P f := Iff.rfl

theorem of_ok {a : α} (h : Q a) : Settles P Q (.ok a) := h

theorem of_error {f : Fault} (h : P f) : Settles P Q (.error f) := h

theorem bind {x : ExceptT Fault Id α} {g : α → ExceptT Fault Id β}
    (hx : Settles P Q x.run.run) (hg : ∀ a, Q a → Settles P R (g a).run.run) :
    Settles P R (x >>= g).run.run := by
  rw [ExceptT.run_bind, Id.run_bind]
  cases h : x.run.run with
  | ok a =>
    rw [h] at hx
    exact hg a hx
  | error f =>
    rw [h] at hx
    exact hx

theorem pure {a : α} (h : Q a) : Settles P Q (Pure.pure a : ExceptT Fault Id α).run.run := h

theorem throw {f : Fault} (h : P f) : Settles P Q (MonadExcept.throw f : ExceptT Fault Id α).run.run := h

theorem throw_bind {f : Fault} {g : α → ExceptT Fault Id β} (h : P f) :
    Settles P R (MonadExcept.throw f >>= g).run.run :=
  (throw (Q := fun _ => False) h).bind fun _ h => h.elim

theorem ofExcept {e : Except Fault α} (h : Settles P Q e) :
    Settles P Q (ExceptT.mk (Pure.pure e) : ExceptT Fault Id α).run.run := h

theorem lift {x : Id α} (h : Q x.run) : Settles P Q (ExceptT.lift x : ExceptT Fault Id α).run.run := h

theorem except_bind {x : Except Fault α} {g : α → Except Fault β} (hx : Settles P Q x)
    (hg : ∀ a, Q a → Settles P R (g a)) : Settles P R (x >>= g) := by
  cases x with
  | error f => exact hx
  | ok a => exact hg a hx

theorem filterMapM {l : List α} {g : α → Except Fault (Option β)}
    (h : ∀ a ∈ l, Settles P (fun _ => True) (g a)) : Settles P (fun _ => True) (l.filterMapM g) := by
  induction l with
  | nil => trivial
  | cons a as ih =>
    rw [List.filterMapM_cons]
    have hrest := ih fun a' ha' => h a' (List.mem_cons_of_mem _ ha')
    refine except_bind (h a List.mem_cons_self) fun o _ => ?_
    cases o with
    | none => exact hrest
    | some b => exact except_bind hrest fun _ _ => trivial

theorem mono {P' : Fault → Prop} {Q' : α → Prop} {e : Except Fault α} (h : Settles P Q e)
    (hP : ∀ g, P g → P' g) (hQ : ∀ a, Q a → Q' a) : Settles P' Q' e := by
  cases e with
  | error g => exact hP g h
  | ok a => exact hQ a h

end Settles

-- a call on concrete answers is read through the rules above, never unfolded by unification
attribute [irreducible] Settles

namespace Provider

/-! ## Statuses and texts -/

/-- The fault a provider's answer status calls for: refused credentials for 401 and 403, a
refused request for any other client error but 429, a transport failure for 429 and a
server error; any other status, 600 and above included, lets the body be read. -/
def statusFault (k : Int) : Option (FaultKind × Option Json) :=
  if k = 401 ∨ k = 403 then some (.auth, none)
  else if 400 ≤ k ∧ k < 500 ∧ k ≠ 429 then some (.request, some (.int k))
  else if 400 ≤ k ∧ k < 600 then some (.transport, some (.int k))
  else none

section Status

variable {k : Int}

theorem statusFault_auth (h : k = 401 ∨ k = 403) : statusFault k = some (.auth, none) := by
  rw [statusFault, if_pos h]

theorem statusFault_request (hauth : ¬ (k = 401 ∨ k = 403)) (h : 400 ≤ k ∧ k < 500 ∧ k ≠ 429) :
    statusFault k = some (.request, some (.int k)) := by
  rw [statusFault, if_neg hauth, if_pos h]

theorem statusFault_transport (hauth : ¬ (k = 401 ∨ k = 403)) (hreq : ¬ (400 ≤ k ∧ k < 500 ∧ k ≠ 429))
    (h : 400 ≤ k ∧ k < 600) : statusFault k = some (.transport, some (.int k)) := by
  rw [statusFault, if_neg hauth, if_neg hreq, if_pos h]

theorem statusFault_none (hauth : ¬ (k = 401 ∨ k = 403)) (hreq : ¬ (400 ≤ k ∧ k < 500 ∧ k ≠ 429))
    (h : ¬ (400 ≤ k ∧ k < 600)) : statusFault k = none := by
  rw [statusFault, if_neg hauth, if_neg hreq, if_neg h]

end Status

/-- A value at a provider's text path that reads as no text: a blank text, or another value
that is false as a condition. -/
def blankText : Json → Bool
  | .str s => Text.isAllBlank s
  | v => v.isEmptyish

theorem blankText_other {v : Json} (h : ∀ s, v = .str s → False) : blankText v = v.isEmptyish := by
  cases v with
  | str s => exact (h s rfl).elim
  | _ => rfl

/-- The faults a call ends with on an answer with the whole-number status `k`: the one its
status calls for; otherwise one passed on from reading the body, an unreadable body, a
payload without the text path, a blank text there, or a value there that is not a text. -/
def AnswerFault (p : Provider) (r : Http.Response) (k : Int) (g : Fault) : Prop :=
  (∃ ks, statusFault k = some ks ∧ (g.kind, g.status) = ks) ∨
  statusFault k = none ∧
    ((∃ e, r.json = .error e ∧ (e.passOn? = some g ∨ e.passOn? = none ∧ g.kind = .parse ∧ g.status = none)) ∨
     ∃ payload, r.json = .ok payload ∧
       ((∃ f, p.textOf payload = .error f) ∧ g.kind = .parse ∧ g.status = none ∨
        ∃ v, p.textOf payload = .ok v ∧
          (blankText v = true ∧ g.kind = .parse ∧ g.status = none ∨
           blankText v = false ∧ (∀ s, v ≠ .str s) ∧ g = Fault.noAttribute v.kindName "strip")))

/-- The texts a call returns on an answer with the whole-number status `k`: the text at the
path of a readable body, when it is not blank. -/
def AnswerText (p : Provider) (r : Http.Response) (k : Int) (s : String) : Prop :=
  statusFault k = none ∧ ∃ payload, r.json = .ok payload ∧ p.textOf payload = .ok (.str s) ∧
    Text.isAllBlank s = false

section Inversion

variable {p : Provider} {r : Http.Response} {k : Int} {g : Fault} {s : String}

theorem AnswerFault.of_status {ks : FaultKind × Option Json} (hks : statusFault k = some ks)
    (h : AnswerFault p r k g) : (g.kind, g.status) = ks := by
  rcases h with ⟨ks', hks', hg⟩ | ⟨hnone, -⟩
  · rw [hks] at hks'
    cases hks'
    exact hg
  · simp [hks] at hnone

theorem AnswerFault.of_unreadable (hnone : statusFault k = none) {e : Json.ReadFailure}
    (he : r.json = .error e) (h : AnswerFault p r k g) :
    e.passOn? = some g ∨ e.passOn? = none ∧ g.kind = .parse ∧ g.status = none := by
  rcases h with ⟨ks, hks, -⟩ | ⟨-, ⟨e', he', hg⟩ | ⟨payload, hjson, -⟩⟩
  · simp [hnone] at hks
  · rw [he, Except.error.injEq] at he'
    subst he'
    exact hg
  · simp [he] at hjson

theorem AnswerFault.of_payload (hnone : statusFault k = none) {payload : Json}
    (hjson : r.json = .ok payload) (h : AnswerFault p r k g) :
    (∃ f, p.textOf payload = .error f) ∧ g.kind = .parse ∧ g.status = none ∨
      ∃ v, p.textOf payload = .ok v ∧
        (blankText v = true ∧ g.kind = .parse ∧ g.status = none ∨
         blankText v = false ∧ (∀ s, v ≠ .str s) ∧ g = Fault.noAttribute v.kindName "strip") := by
  rcases h with ⟨ks, hks, -⟩ | ⟨-, ⟨e, he, -⟩ | ⟨payload', hjson', hg⟩⟩
  · simp [hnone] at hks
  · simp [hjson] at he
  · rw [hjson, Except.ok.injEq] at hjson'
    subst hjson'
    exact hg

theorem AnswerText.of_payload {payload : Json} (hjson : r.json = .ok payload)
    (h : AnswerText p r k s) : p.textOf payload = .ok (.str s) ∧ Text.isAllBlank s = false := by
  obtain ⟨-, payload', hjson', hs, hfull⟩ := h
  rw [hjson, Except.ok.injEq] at hjson'
  subst hjson'
  exact ⟨hs, hfull⟩

end Inversion

/-! ## Finding the text -/

section Shape

/-- Every failure of a step that finds the text is a malformed payload. -/
def Shaped {α : Type} (x : Except Fault α) : Prop := Settles (isShapeFault · = true) (fun _ => True) x

theorem member_shaped (v : Json) (key : String) : Shaped (member v key) := by
  unfold Shaped member
  split
  · split
    · exact Settles.of_ok trivial
    · exact Settles.of_error rfl
  · unfold notSubscriptable
    split <;> exact Settles.of_error rfl

theorem first_shaped (v : Json) : Shaped (first v) := by
  unfold Shaped first
  split
  · exact Settles.of_ok trivial
  · exact Settles.of_error rfl
  · split
    · exact Settles.of_ok trivial
    · exact Settles.of_error rfl
  · exact Settles.of_error rfl
  · exact Settles.of_error rfl

theorem getOr_shaped (v : Json) (key : String) (d : Json) : Shaped (getOr v key d) := by
  unfold Shaped getOr
  split
  · exact Settles.of_ok trivial
  · exact Settles.of_error rfl

theorem items_shaped (v : Json) : Shaped (items v) := by
  unfold Shaped items
  split <;> first | exact Settles.of_ok trivial | exact Settles.of_error rfl

theorem joinTexts_shaped (pieces : List Json) : Shaped (joinTexts pieces) := by
  unfold Shaped joinTexts
  suffices h : ∀ i, Settles (isShapeFault · = true) (fun _ => True) (joinTexts.go pieces i) from h 0
  induction pieces with
  | nil => exact fun _ => Settles.of_ok trivial
  | cons v rest ih =>
    intro i
    cases v with
    | str s => exact Settles.except_bind (ih (i + 1)) fun _ _ => Settles.of_ok trivial
    | _ => exact Settles.of_error rfl

theorem textOf_shaped (p : Provider) (payload : Json) : Shaped (p.textOf payload) := by
  unfold textOf
  split
  · unfold messagesText
    refine Settles.except_bind (member_shaped _ _) fun content _ => ?_
    refine Settles.except_bind (items_shaped _) fun blocks _ => ?_
    refine Settles.except_bind (Settles.filterMapM fun b _ => ?_) fun texts _ => ?_
    · refine Settles.except_bind (getOr_shaped _ _ _) fun t _ => ?_
      split
      · exact Settles.except_bind (getOr_shaped _ _ _) fun _ _ => Settles.of_ok trivial
      · exact Settles.of_ok trivial
    · exact Settles.except_bind (joinTexts_shaped _) fun _ _ => Settles.of_ok trivial
  · unfold chatText
    refine Settles.except_bind (member_shaped _ _) fun _ _ => ?_
    refine Settles.except_bind (first_shaped _) fun _ _ => ?_
    refine Settles.except_bind (member_shaped _ _) fun _ _ => ?_
    exact member_shaped _ _

theorem textOf_shape {p : Provider} {payload : Json} {f : Fault} (h : p.textOf payload = .error f) :
    isShapeFault f = true := by
  have hs := textOf_shaped p payload
  rw [Shaped, h, Settles.error_iff] at hs
  exact hs

end Shape

/-! ## One call -/

/-- Everything a call can end with on an answer with a whole-number status. -/
theorem complete_answer {p : Provider} {prompt : Json} {w : Http.Wire Id} {r : Http.Response} {k : Int}
    (hsend : w.send (p.request prompt) = .answer r) (hk : r.status = .int k) :
    Settles (AnswerFault p r k) (AnswerText p r k) (p.complete w prompt).run.run := by
  unfold complete
  refine (Settles.lift (Q := (· = Http.Outcome.answer r)) hsend).bind fun out hout => ?_
  subst hout
  extract_lets textStep bodyStep okStep
  -- the value at the text path
  have htext : ∀ payload v, statusFault k = none → r.json = .ok payload → p.textOf payload = .ok v →
      Settles (AnswerFault p r k) (AnswerText p r k) (textStep v).run.run := by
    intro payload v hnone hjson hv
    simp only [textStep]
    split
    · rename_i s
      split
      · rename_i hb
        exact Settles.throw (.inr ⟨hnone, .inr ⟨payload, hjson, .inr ⟨_, hv, .inl ⟨hb, rfl, rfl⟩⟩⟩⟩)
      · rename_i hb
        exact Settles.pure ⟨hnone, payload, hjson, hv, by simpa using hb⟩
    · rename_i hv'
      have hblank : blankText v = v.isEmptyish := blankText_other hv'
      split
      · rename_i hb
        exact Settles.throw (.inr ⟨hnone, .inr ⟨payload, hjson, .inr ⟨_, hv, .inl ⟨hblank ▸ hb, rfl, rfl⟩⟩⟩⟩)
      · rename_i hb
        exact Settles.throw (.inr ⟨hnone, .inr ⟨payload, hjson, .inr ⟨_, hv,
          .inr ⟨by simpa [hblank] using hb, fun s h => hv' s h, rfl⟩⟩⟩⟩)
  -- the payload of a readable body
  have hbody : ∀ payload, statusFault k = none → r.json = .ok payload →
      Settles (AnswerFault p r k) (AnswerText p r k) (bodyStep payload).run.run := by
    intro payload hnone hjson
    simp only [bodyStep]
    split
    · rename_i t ht
      exact (Settles.pure rfl).bind fun v hv => hv ▸ htext payload t hnone hjson ht
    · rename_i f hf
      rw [if_pos (textOf_shape hf)]
      exact Settles.throw_bind (.inr ⟨hnone, .inr ⟨payload, hjson, .inl ⟨⟨f, hf⟩, rfl, rfl⟩⟩⟩)
  refine (Settles.pure rfl).bind fun r' hr => ?_
  subst hr
  simp only [okStep]
  -- refused credentials
  split
  · rename_i hauth
    have h : k = 401 ∨ k = 403 := by simpa [hk, Json.sameValue_int] using hauth
    exact Settles.throw_bind (.inl ⟨_, statusFault_auth h, rfl⟩)
  rename_i hauth
  have hauth' : ¬ (k = 401 ∨ k = 403) := by simpa [hk, Json.sameValue_int] using hauth
  refine (Settles.ofExcept (Q := (· = decide (400 ≤ k ∧ k < 500)))
    (by rw [Http.Response.statusWithin_of_int hk]; exact Settles.of_ok rfl)).bind fun b hb => ?_
  subst hb
  -- a refused request
  split
  · rename_i hreq
    have h : 400 ≤ k ∧ k < 500 ∧ k ≠ 429 := by simpa [hk, Json.sameValue_int, and_assoc] using hreq
    exact Settles.throw_bind (.inl ⟨_, statusFault_request hauth' h, by simp only [hk]⟩)
  rename_i hreq
  have hreq' : ¬ (400 ≤ k ∧ k < 500 ∧ k ≠ 429) := by simpa [hk, Json.sameValue_int, and_assoc] using hreq
  refine (Settles.ofExcept (Q := (· = decide (k < 400 ∨ 600 ≤ k)))
    (by rw [Http.Response.ok_of_int hk]; exact Settles.of_ok rfl)).bind fun b hb => ?_
  subst hb
  -- a transport failure
  split
  · rename_i hbad
    have h : 400 ≤ k ∧ k < 600 := by simp at hbad; omega
    exact Settles.throw_bind (.inl ⟨_, statusFault_transport hauth' hreq' h, by simp only [hk]⟩)
  rename_i hbad
  have hnone : statusFault k = none :=
    statusFault_none hauth' hreq' (by simp at hbad; omega)
  -- the body
  split
  · rename_i v hv
    exact (Settles.pure rfl).bind fun _ h => h ▸ hbody v hnone hv
  · rename_i e he
    split
    · rename_i g hg
      exact Settles.throw_bind (.inr ⟨hnone, .inl ⟨e, he, .inl hg⟩⟩)
    · rename_i hg
      have hnone' : e.passOn? = none := Option.eq_none_iff_forall_ne_some.2 fun g h => hg g h
      exact Settles.throw_bind (.inr ⟨hnone, .inl ⟨e, he, .inr ⟨hnone', rfl, rfl⟩⟩⟩)

theorem complete_failure {p : Provider} {prompt : Json} {w : Http.Wire Id} {f : Fault}
    (hsend : w.send (p.request prompt) = .failure f) (hwire : f.kind.isWire = true) :
    Settles (fun g => g.kind = .transport ∧ g.status = none) (fun _ => False)
      (p.complete w prompt).run.run := by
  unfold complete
  refine (Settles.lift (Q := (· = Http.Outcome.failure f)) hsend).bind fun out hout => ?_
  subst hout
  extract_lets textStep bodyStep okStep
  obtain ⟨wf, hwf⟩ := FaultKind.eq_wire_of_isWire hwire
  simp only [hwf]
  split <;> exact Settles.throw_bind ⟨rfl, rfl⟩

section Answer

variable {p : Provider} {prompt : Json} {w : Http.Wire Id} {r : Http.Response} {k : Int}

theorem complete_of_status (hsend : w.send (p.request prompt) = .answer r) (hk : r.status = .int k)
    {ks : FaultKind × Option Json} (hks : statusFault k = some ks) :
    Settles (fun g => (g.kind, g.status) = ks) (fun _ => False) (p.complete w prompt).run.run := by
  refine (complete_answer hsend hk).mono (fun g hg => hg.of_status hks) fun s hs => ?_
  simp [AnswerText, hks] at hs

theorem complete_unreadable (hsend : w.send (p.request prompt) = .answer r) (hk : r.status = .int k)
    (hnone : statusFault k = none) {e : Json.ReadFailure} (he : r.json = .error e)
    (hpass : e.passOn? = none) :
    Settles (fun g => g.kind = .parse) (fun _ => False) (p.complete w prompt).run.run := by
  refine (complete_answer hsend hk).mono (fun g hg => ?_) fun s hs => ?_
  · rcases hg.of_unreadable hnone he with hg | ⟨-, hg, -⟩
    · simp [hpass] at hg
    · exact hg
  · obtain ⟨-, payload, hjson, -⟩ := hs
    simp [he] at hjson

theorem complete_shapeless (hsend : w.send (p.request prompt) = .answer r) (hk : r.status = .int k)
    (hnone : statusFault k = none) {payload : Json} (hjson : r.json = .ok payload) {f : Fault}
    (hf : p.textOf payload = .error f) :
    Settles (fun g => g.kind = .parse) (fun _ => False) (p.complete w prompt).run.run := by
  refine (complete_answer hsend hk).mono (fun g hg => ?_) fun s hs => ?_
  · rcases hg.of_payload hnone hjson with ⟨-, hg, -⟩ | ⟨v, hv, -⟩
    · exact hg
    · simp [hf] at hv
  · have hs' := (hs.of_payload hjson).1
    simp [hf] at hs'

theorem complete_blank (hsend : w.send (p.request prompt) = .answer r) (hk : r.status = .int k)
    (hnone : statusFault k = none) {payload : Json} (hjson : r.json = .ok payload) {v : Json}
    (hv : p.textOf payload = .ok v) (hblank : blankText v = true) :
    Settles (fun g => g.kind = .parse) (fun _ => False) (p.complete w prompt).run.run := by
  refine (complete_answer hsend hk).mono (fun g hg => ?_) fun s hs => ?_
  · rcases hg.of_payload hnone hjson with ⟨⟨f, hf⟩, -⟩ | ⟨v', hv', hg⟩
    · simp [hv] at hf
    · rw [hv, Except.ok.injEq] at hv'
      subst hv'
      rcases hg with ⟨-, hg, -⟩ | ⟨hb, -⟩
      · exact hg
      · simp [hblank] at hb
  · obtain ⟨hv', hfull⟩ := hs.of_payload hjson
    rw [hv, Except.ok.injEq] at hv'
    subst hv'
    simp [blankText, hfull] at hblank

theorem complete_text (hsend : w.send (p.request prompt) = .answer r) (hk : r.status = .int k)
    (hnone : statusFault k = none) {payload : Json} (hjson : r.json = .ok payload) {s : String}
    (hs : p.textOf payload = .ok (.str s)) (hfull : Text.isAllBlank s = false) :
    (p.complete w prompt).run.run = .ok s := by
  have h : Settles (AnswerFault p r k) (AnswerText p r k) (p.complete w prompt).run.run :=
    complete_answer hsend hk
  cases hrun : (p.complete w prompt).run.run with
  | ok s' =>
    rw [hrun, Settles.ok_iff] at h
    have hs' := (h.of_payload hjson).1
    rw [hs, Except.ok.injEq, Json.str.injEq] at hs'
    rw [hs']
  | error g =>
    rw [hrun, Settles.error_iff] at h
    rcases h.of_payload hnone hjson with ⟨⟨f, hf⟩, -⟩ | ⟨v, hv, hg⟩
    · simp [hs] at hf
    · rw [hs, Except.ok.injEq] at hv
      subst hv
      rcases hg with ⟨hb, -⟩ | ⟨-, hne, -⟩
      · simp [blankText, hfull] at hb
      · exact absurd rfl (hne s)

end Answer

/-! ## Failures worth another call -/

/-- An outcome of a request that is worth trying again: a failure of the wire, or an answer
with status 429 or a server error. -/
def Transient (w : Http.Wire Id) (q : Http.Request) : Prop :=
  (∃ f, w.send q = .failure f) ∨
    ∃ r k, w.send q = .answer r ∧ r.status = .int k ∧ (k = 429 ∨ 500 ≤ k ∧ k < 600)

theorem statusFault_transport_iff (k : Int) :
    (∃ st, statusFault k = some (.transport, st)) ↔ (k = 429 ∨ 500 ≤ k ∧ k < 600) := by
  unfold statusFault
  split_ifs with hauth hreq hsrv <;> simp only [Option.some.injEq, Prod.mk.injEq, reduceCtorEq,
    false_and, exists_false, true_and, exists_eq', false_iff, true_iff, not_or, not_and] <;> omega

theorem AnswerFault.transport_iff {p : Provider} {r : Http.Response} {k : Int} {g : Fault}
    (h : AnswerFault p r k g) : g.kind = .transport ↔ (k = 429 ∨ 500 ≤ k ∧ k < 600) := by
  rw [← statusFault_transport_iff]
  rcases h with ⟨⟨kind, st⟩, hks, hg⟩ | ⟨hnone, hbody⟩
  · simp only [Prod.mk.injEq] at hg
    rw [hks, hg.1]
    constructor
    · rintro rfl
      exact ⟨st, rfl⟩
    · rintro ⟨st', h'⟩
      simp only [Option.some.injEq, Prod.mk.injEq] at h'
      exact h'.1
  · -- the body's faults: too deep to read, unreadable, or not a text
    simp only [hnone, reduceCtorEq, exists_false, iff_false]
    rcases hbody with ⟨e, -, hpass | ⟨-, hg, -⟩⟩ | ⟨payload, -, ⟨-, hg, -⟩ | ⟨v, -, ⟨-, hg, -⟩ | ⟨-, -, hg⟩⟩⟩
    · rw [MarketData.passOn?_kind hpass]
      simp
    all_goals simp [hg, Fault.noAttribute]

theorem transient_answer_iff {w : Http.Wire Id} {q : Http.Request} {r : Http.Response} {k : Int}
    (hsend : w.send q = .answer r) (hk : r.status = .int k) :
    Transient w q ↔ (k = 429 ∨ 500 ≤ k ∧ k < 600) := by
  constructor
  · rintro (⟨f, hf⟩ | ⟨r', k', hr', hk', hcode⟩)
    · rw [hsend] at hf
      cases hf
    · rw [hsend] at hr'
      cases hr'
      rw [hk] at hk'
      cases hk'
      exact hcode
  · exact fun hcode => .inr ⟨r, k, hsend, hk, hcode⟩

/-- A call on a wire that fails only on the wire and answers with whole-number statuses fails
in transport exactly when its outcome is transient. -/
theorem complete_transport_iff {p : Provider} {prompt : Json} {w : Http.Wire Id}
    (hwire : ∀ f, w.send (p.request prompt) = .failure f → f.kind.isWire = true)
    (hint : ∀ r, w.send (p.request prompt) = .answer r → ∃ k : Int, r.status = .int k) :
    IsTransport (((p.complete w prompt).run.run).map Json.str) ↔ Transient w (p.request prompt) := by
  cases hsend : w.send (p.request prompt) with
  | failure f =>
    have h := complete_failure hsend (hwire f hsend)
    cases hrun : (p.complete w prompt).run.run with
    | ok s =>
      rw [hrun, Settles.ok_iff] at h
      exact h.elim
    | error g =>
      rw [hrun, Settles.error_iff] at h
      exact iff_of_true ⟨g, rfl, h.1⟩ (.inl ⟨f, hsend⟩)
  | answer r =>
    obtain ⟨k, hk⟩ := hint r hsend
    have h := complete_answer hsend hk
    rw [transient_answer_iff hsend hk]
    cases hrun : (p.complete w prompt).run.run with
    | ok s =>
      -- a text is returned only on a status that lets the body be read
      rw [hrun, Settles.ok_iff] at h
      have hnone : statusFault k = none := h.1
      rw [← statusFault_transport_iff, hnone]
      simp [IsTransport, Except.map]
    | error g =>
      rw [hrun, Settles.error_iff] at h
      rw [← h.transport_iff]
      simp [IsTransport, Except.map]

/-- How a provider's call ends for every outcome of its request, and, under the advisor's
retries, which calls are tried again: exactly those whose outcome is transient. -/
theorem complete_sorts_outcomes (p : Provider) (prompt : Json) (w : Http.Wire Id) :
    (∀ f, w.send (p.request prompt) = .failure f → f.kind.isWire = true →
      Settles (fun g => g.kind = .transport ∧ g.status = none) (fun _ => False)
        (p.complete w prompt).run.run) ∧
    (∀ r k, w.send (p.request prompt) = .answer r → r.status = .int k →
      (∀ ks, statusFault k = some ks →
        Settles (fun g => (g.kind, g.status) = ks) (fun _ => False) (p.complete w prompt).run.run) ∧
      (statusFault k = none →
        (∀ e, r.json = .error e → e.passOn? = none →
          Settles (fun g => g.kind = .parse) (fun _ => False) (p.complete w prompt).run.run) ∧
        ∀ payload, r.json = .ok payload →
          (∀ f, p.textOf payload = .error f →
            Settles (fun g => g.kind = .parse) (fun _ => False) (p.complete w prompt).run.run) ∧
          (∀ v, p.textOf payload = .ok v → blankText v = true →
            Settles (fun g => g.kind = .parse) (fun _ => False) (p.complete w prompt).run.run) ∧
          (∀ s, p.textOf payload = .ok (.str s) → Text.isAllBlank s = false →
            (p.complete w prompt).run.run = .ok s))) ∧
    ∀ ws : Nat → Http.Wire Id,
      (∀ j f, (ws j).send (p.request prompt) = .failure f → f.kind.isWire = true) →
      (∀ j r, (ws j).send (p.request prompt) = .answer r → ∃ k : Int, r.status = .int k) →
      ∀ (policy : RetryPolicy) (n : Int) (lo hi : Binary64) (d : Market.Dataset) (c : ResultCache)
        (s : Script), policy.maxRetries = .int n → policy.initialDelay.toDouble = .ok lo →
        policy.maxDelay.toDouble = .ok hi →
        (∀ j, s.answers j = ((p.complete (ws j) prompt).run.run).map Json.str) →
        Requested (max 1 (n + 1).toNat) (policy.wait lo hi) d c s
            (Script.runOn (Advisor.analyze Script.ask Script.sleep Script.clock policy d) c s) ∧
          ∀ j, IsTransport (s.answers j) ↔ Transient (ws j) (p.request prompt) := by
  refine ⟨fun f hsend hwire => complete_failure hsend hwire,
    fun r k hsend hk => ⟨fun ks hks => complete_of_status hsend hk hks, fun hnone => ⟨?_, ?_⟩⟩,
    fun ws hwire hint policy n lo hi d c s hn hlo hhi hs => ⟨analyze_run hn hlo hhi d c s, ?_⟩⟩
  · exact fun e he hpass => complete_unreadable hsend hk hnone he hpass
  · exact fun payload hjson => ⟨fun f hf => complete_shapeless hsend hk hnone hjson hf,
      fun v hv hblank => complete_blank hsend hk hnone hjson hv hblank,
      fun s hs hfull => complete_text hsend hk hnone hjson hs hfull⟩
  · -- each answer of the script is a call on its own wire
    intro j
    rw [hs j]
    exact complete_transport_iff (hwire j) (hint j)

/-- A messages provider with no key, model or address. -/
def bareProvider : Provider :=
  { kind := .messages, apiKey := .null, model := .null, baseUrl := "", maxTokens := .null,
    timeout := .null }

/-- Wires that answer the first two calls with 503 and the later ones with 200. -/
def flakyWires (j : Nat) : Http.Wire Id :=
  ⟨fun _ => .answer { status := .int (if j < 2 then 503 else 200), body := "busy" }⟩

/-- The provider's calls on those wires as the advisor's script. -/
def flakyScript : Script where
  answers j := ((bareProvider.complete (flakyWires j) (.str "p")).run.run).map Json.str
  calls := 0
  sleeps := []
  now := DateTime.ofDate ⟨2024, 1, 2⟩

theorem complete_sorts_outcomes_flaky :
    Requested (max 1 ((2 : Int) + 1).toNat) (({} : RetryPolicy).wait 2 8) quietDataset
        (ResultCache.create ⟨21600000000⟩) flakyScript
        (Script.runOn (Advisor.analyze Script.ask Script.sleep Script.clock {} quietDataset)
          (ResultCache.create ⟨21600000000⟩) flakyScript) ∧
      ∀ j, IsTransport (flakyScript.answers j) ↔
        Transient (flakyWires j) (bareProvider.request (.str "p")) :=
  (complete_sorts_outcomes bareProvider (.str "p") (flakyWires 0)).2.2 flakyWires
    (fun _ _ h => by cases h) (fun _ _ h => by cases h; exact ⟨_, rfl⟩) {} 2 2 8 quietDataset
    (ResultCache.create ⟨21600000000⟩) flakyScript rfl rfl rfl (fun _ => rfl)

/-- Only 400 to 599 are error statuses: an answer with status 600 is read, and its text is
returned. -/
theorem status_600_reads_body :
    (match (complete (⟨fun _ => .answer { status := .int 600, body := (Json.write true
        (.obj [("choices", .arr [.obj [("message", .obj [("content", .str "hello")])]])])) }⟩ :
        Http.Wire Id)
      { kind := .chat, apiKey := .null, model := .null, baseUrl := "", maxTokens := .null,
        timeout := .null } (.str "p")).run.run with
      | .ok s => s == "hello"
      | .error _ => false) = true := by
  decide +kernel

end Provider

end RankAdvisor
