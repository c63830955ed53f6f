import MsggwManager.Faults

/-!
# Hoare triples over what the gateway sees

`Cli.WTriple P Q E x`: from every world whose gateway state and request log satisfy `P`, `x`
returns a value `a` with them satisfying `Q a`, or raises an exception `e` with them satisfying
`E e`. The assertions never read the operator's keys or the random draws, so a prompt or a generated
password keeps every assertion; a request moves the gateway's state by its answer and appends its
own entry to the log (`send_wtriple`, the strongest postcondition of a request). `Cli.Triple` is
the case whose assertions read the log only.

* the structural rules: `Cli.WTriple.pre`, `Cli.WTriple.post`, `Cli.wtriple_pure`,
  `Cli.wtriple_bind`, `Cli.wtriple_ite`, `Cli.wtriple_liftExcept`, `Cli.wtriple_foldlM`, and the
  same for `Cli.Triple`;
* the primitives: `input_wtriple`, `generatePassword_wtriple`, `send_wtriple`, and the script's
  helpers that only prompt (`identifierOr`, `carrierOrDefault`, `readLines`, ...).

The results about whole sessions are proved from these rules (`Crashes`, `Clients.Paths`,
`QuickFlow`).
-/

namespace MsggwManager

/-- The requests sent so far, with their outcomes, oldest first. -/
abbrev RequestLog := List (Request × Outcome)

variable {σ : Type}

/-- From every world whose gateway state and log satisfy `P`, `x` returns `a` with them in `Q a`,
or raises `e` with them in `E e`. -/
def Cli.WTriple {α : Type} (P : σ → RequestLog → Prop) (Q : α → σ → RequestLog → Prop)
    (E : Exc → σ → RequestLog → Prop) (x : Cli σ α) : Prop :=
  ∀ w, P w.server w.log → match x w with
    | .ok a w' => Q a w'.server w'.log
    | .error e w' => E e w'.server w'.log

/-- The triple whose assertions read the log only. -/
def Cli.Triple {α : Type} (P : RequestLog → Prop) (Q : α → RequestLog → Prop)
    (E : Exc → RequestLog → Prop) (x : Cli σ α) : Prop :=
  Cli.WTriple (fun _ => P) (fun a _ => Q a) (fun e _ => E e) x

/-! ## The rules -/

section Rules

variable {α β : Type} {P : σ → RequestLog → Prop} {Q : α → σ → RequestLog → Prop}
  {E : Exc → σ → RequestLog → Prop}

theorem Cli.WTriple.pre {P' : σ → RequestLog → Prop} {x : Cli σ α} (hx : Cli.WTriple P Q E x)
    (h : ∀ s log, P' s log → P s log) : Cli.WTriple P' Q E x :=
  fun w hw => hx w (h _ _ hw)

theorem Cli.WTriple.exists_pre {ι : Type} {P' : ι → σ → RequestLog → Prop} {x : Cli σ α}
    (hx : ∀ i, Cli.WTriple (P' i) Q E x) : Cli.WTriple (fun s log => ∃ i, P' i s log) Q E x :=
  fun w ⟨i, hw⟩ => hx i w hw

theorem Cli.WTriple.assume {φ : Prop} {x : Cli σ α} (hx : φ → Cli.WTriple P Q E x) :
    Cli.WTriple (fun s log => φ ∧ P s log) Q E x :=
  fun w ⟨hφ, hw⟩ => hx hφ w hw

theorem Cli.WTriple.post {Q' : α → σ → RequestLog → Prop} {x : Cli σ α}
    (hx : Cli.WTriple P Q E x) (h : ∀ a s log, Q a s log → Q' a s log) :
    Cli.WTriple P Q' E x := by
  intro w hw
  have hrun := hx w hw
  cases hw' : x w with
  | ok a w' => rw [hw'] at hrun; exact h _ _ _ hrun
  | error e w' => rw [hw'] at hrun; exact hrun

theorem Cli.wtriple_pure {a : α} (h : ∀ s log, P s log → Q a s log) :
    Cli.WTriple P Q E (pure a : Cli σ α) :=
  fun _ hw => h _ _ hw

theorem Cli.wtriple_bind {R : β → σ → RequestLog → Prop} {x : Cli σ α} {f : α → Cli σ β}
    (hx : Cli.WTriple P Q E x) (hf : ∀ a, Cli.WTriple (Q a) R E (f a)) :
    Cli.WTriple P R E (x >>= f) := by
  intro w hw
  have hrun := hx w hw
  rw [Cli.bind_apply]
  cases hw' : x w with
  | ok a w' => rw [hw'] at hrun; exact hf a w' hrun
  | error e w' => rw [hw'] at hrun; exact hrun

theorem Cli.wtriple_ite {c : Prop} [Decidable c] {x y : Cli σ α}
    (hx : c → Cli.WTriple P Q E x) (hy : ¬c → Cli.WTriple P Q E y) :
    Cli.WTriple P Q E (if c then x else y) := by
  split
  next h => exact hx h
  next h => exact hy h

theorem Cli.wtriple_liftExcept_eq {x : Except Exc α}
    (h : ∀ e s log, x = .error e → P s log → E e s log) :
    Cli.WTriple P (fun a s log => x = .ok a ∧ P s log) E (liftExcept x : Cli σ α) := by
  intro w hw
  cases x with
  | ok a => exact ⟨rfl, hw⟩
  | error e => exact h e _ _ rfl hw

theorem Cli.wtriple_liftExcept {x : Except Exc α}
    (h : ∀ e s log, x = .error e → P s log → E e s log) :
    Cli.WTriple P (fun _ => P) E (liftExcept x : Cli σ α) :=
  (Cli.wtriple_liftExcept_eq h).post fun _ _ _ h => h.2

theorem Cli.wtriple_foldlM {I : σ → RequestLog → Prop} {f : β → α → Cli σ β} {l : List α}
    (hf : ∀ b, ∀ a ∈ l, Cli.WTriple I (fun _ => I) E (f b a)) :
    ∀ b, Cli.WTriple I (fun _ => I) E (l.foldlM f b) := by
  induction l with
  | nil => exact fun b => Cli.wtriple_pure fun _ _ h => h
  | cons a l ih =>
    intro b
    rw [List.foldlM_cons]
    exact Cli.wtriple_bind (hf b a (List.mem_cons_self a l)) fun b' =>
      ih (fun b a ha => hf b a (List.mem_cons_of_mem _ ha)) b'

theorem Cli.WTriple.world {I : σ → RequestLog → Prop} {x : Cli σ α}
    (hx : Cli.WTriple P (fun _ => I) (fun _ => I) x) {w : World σ} (hw : P w.server w.log) :
    I (Cli.world (x w)).server (Cli.world (x w)).log := by
  have hrun := hx w hw
  cases h : x w <;> rw [h] at hrun <;> exact hrun

end Rules

/-! ## The rules of the log-only triple -/

section LogRules

variable {α β : Type} {P : RequestLog → Prop} {Q : α → RequestLog → Prop}
  {E : Exc → RequestLog → Prop}

theorem Cli.Triple.pre {P' : RequestLog → Prop} {x : Cli σ α} (hx : Cli.Triple P Q E x)
    (h : ∀ log, P' log → P log) : Cli.Triple P' Q E x :=
  Cli.WTriple.pre hx fun _ log => h log

theorem Cli.Triple.post {Q' : α → RequestLog → Prop} {x : Cli σ α} (hx : Cli.Triple P Q E x)
    (h : ∀ a log, Q a log → Q' a log) : Cli.Triple P Q' E x :=
  Cli.WTriple.post hx fun a _ log => h a log

theorem Cli.triple_pure {a : α} (h : ∀ log, P log → Q a log) :
    Cli.Triple P Q E (pure a : Cli σ α) :=
  Cli.wtriple_pure fun _ log => h log

theorem Cli.triple_bind {R : β → RequestLog → Prop} {x : Cli σ α} {f : α → Cli σ β}
    (hx : Cli.Triple P Q E x) (hf : ∀ a, Cli.Triple (Q a) R E (f a)) :
    Cli.Triple P R E (x >>= f) :=
  Cli.wtriple_bind hx hf

theorem Cli.triple_ite {c : Prop} [Decidable c] {x y : Cli σ α} (hx : c → Cli.Triple P Q E x)
    (hy : ¬c → Cli.Triple P Q E y) : Cli.Triple P Q E (if c then x else y) :=
  Cli.wtriple_ite hx hy

theorem Cli.triple_liftExcept_eq {x : Except Exc α}
    (h : ∀ e log, x = .error e → P log → E e log) :
    Cli.Triple P (fun a log => x = .ok a ∧ P log) E (liftExcept x : Cli σ α) :=
  Cli.wtriple_liftExcept_eq fun e _ log => h e log

theorem Cli.triple_liftExcept {x : Except Exc α}
    (h : ∀ e log, x = .error e → P log → E e log) :
    Cli.Triple P (fun _ => P) E (liftExcept x : Cli σ α) :=
  Cli.wtriple_liftExcept fun e _ log => h e log

theorem Cli.triple_foldlM {I : RequestLog → Prop} {f : β → α → Cli σ β} {l : List α}
    (hf : ∀ b, ∀ a ∈ l, Cli.Triple I (fun _ => I) E (f b a)) :
    ∀ b, Cli.Triple I (fun _ => I) E (l.foldlM f b) :=
  Cli.wtriple_foldlM hf

theorem Cli.Triple.world {I : RequestLog → Prop} {x : Cli σ α}
    (hx : Cli.Triple P (fun _ => I) (fun _ => I) x) {w : World σ} (hw : P w.log) :
    I (Cli.world (x w)).log :=
  Cli.WTriple.world hx hw

end LogRules

/-! ## The primitives -/

section Primitives

variable {P : σ → RequestLog → Prop} {E : Exc → σ → RequestLog → Prop}
  (hE : ∀ e s log, e.IsLocal → P s log → E e s log)
include hE

theorem input_wtriple : Cli.WTriple P (fun _ => P) E (input : Cli σ String) := by
  intro w hw
  cases h : input w with
  | ok s w' =>
    show P w'.server w'.log
    rw [input_ok h]
    exact hw
  | error e w' =>
    obtain ⟨hw', he⟩ := input_error h
    show E e w'.server w'.log
    rw [hw']
    rcases he with rfl | rfl <;> exact hE _ _ _ trivial hw

theorem generatePassword_wtriple (length : Nat) :
    Cli.WTriple P (fun _ => P) E (generatePassword length : Cli σ String) := by
  intro w hw
  unfold generatePassword
  cases generateFrom length (w.entropy.length + 1) w.entropy with
  | none => exact hE _ _ _ trivial hw
  | some drawn => exact hw

/-- **A request moves the gateway's state by its answer and appends its own entry**, whatever the
gateway answers, and raises only where it cannot go out. -/
theorem send_wtriple (gw : Gateway σ) (method : Method) (path : String)
    (payload : Option (List (String × JVal))) :
    Cli.WTriple P (fun o s log => ∃ s₀ log₀ req, P s₀ log₀ ∧ gw.respond s₀ req = (o, s) ∧
      log = log₀ ++ [(req, o)] ∧ req.method = method ∧ req.path = path ∧ req.payload = payload)
      E (send gw method path payload) := by
  intro w hw
  cases h : send gw method path payload w with
  | ok o w' =>
    obtain ⟨auth, rest, rfl, rfl⟩ := send_ok h
    exact ⟨w.server, w.log, _, hw, rfl, rfl, rfl, rfl, rfl⟩
  | error e w' =>
    obtain ⟨hw', hstop⟩ := send_error h
    show E e w'.server w'.log
    rw [hw']
    exact hE _ _ _ hstop.isLocal hw

theorem passwordOrGenerated_wtriple (typed : String) :
    Cli.WTriple P (fun _ => P) E (passwordOrGenerated typed : Cli σ String) :=
  Cli.wtriple_ite (fun _ => generatePassword_wtriple hE 24) fun _ =>
    Cli.wtriple_pure fun _ _ h => h

theorem identifierOr_wtriple (last : Option String) :
    Cli.WTriple P (fun _ => P) E (identifierOr last : Cli σ _) :=
  Cli.wtriple_bind (input_wtriple hE) fun _ => Cli.wtriple_pure fun _ _ h => h

theorem carrierOrDefault_wtriple :
    Cli.WTriple P (fun _ => P) E (carrierOrDefault : Cli σ String) :=
  Cli.wtriple_bind (input_wtriple hE) fun _ => Cli.wtriple_pure fun _ _ h => h

theorem readLines_wtriple :
    ∀ (fuel : Nat) (lines : List String),
      Cli.WTriple P (fun _ => P) E (readLines lines fuel : Cli σ _)
  | 0, _ => Cli.wtriple_pure fun _ _ h => h
  | fuel + 1, lines => fun w hw => by
    have hin := input_wtriple hE w hw
    rw [readLines_succ]
    cases h : input w with
    | ok line w' => rw [h] at hin; exact readLines_wtriple fuel _ w' hin
    | error e w' =>
      rw [h] at hin
      cases e
      case eofError =>
        show P w'.server w'.log
        rw [(input_error h).1]
        exact hw
      all_goals exact hin

theorem readAllLines_wtriple : Cli.WTriple P (fun _ => P) E (readAllLines : Cli σ _) :=
  fun w => readLines_wtriple hE (w.keys.length + 1) [] w

theorem withIdentifier_wtriple (last : Option String) {op : String → Cli σ Unit}
    (hop : ∀ s, Cli.WTriple P (fun _ => P) E (op s)) :
    Cli.WTriple P (fun _ => P) E (withIdentifier last op) := by
  refine Cli.wtriple_bind (identifierOr_wtriple hE last) fun ident => ?_
  cases ident with
  | none => exact Cli.wtriple_pure fun _ _ h => h
  | some s => exact hop s

end Primitives

section LogPrimitives

variable {P : RequestLog → Prop} {E : Exc → RequestLog → Prop}
  (hE : ∀ e log, e.IsLocal → P log → E e log)
include hE

theorem input_triple : Cli.Triple P (fun _ => P) E (input : Cli σ String) :=
  input_wtriple fun e _ log => hE e log

theorem passwordOrGenerated_triple (typed : String) :
    Cli.Triple P (fun _ => P) E (passwordOrGenerated typed : Cli σ String) :=
  passwordOrGenerated_wtriple (fun e _ log => hE e log) typed

theorem identifierOr_triple (last : Option String) :
    Cli.Triple P (fun _ => P) E (identifierOr last : Cli σ _) :=
  identifierOr_wtriple (fun e _ log => hE e log) last

theorem carrierOrDefault_triple : Cli.Triple P (fun _ => P) E (carrierOrDefault : Cli σ String) :=
  carrierOrDefault_wtriple fun e _ log => hE e log

theorem readAllLines_triple : Cli.Triple P (fun _ => P) E (readAllLines : Cli σ _) :=
  readAllLines_wtriple fun e _ log => hE e log

theorem withIdentifier_triple (last : Option String) {op : String → Cli σ Unit}
    (hop : ∀ s, Cli.Triple P (fun _ => P) E (op s)) :
    Cli.Triple P (fun _ => P) E (withIdentifier last op) :=
  withIdentifier_wtriple (fun e _ log => hE e log) last hop

theorem send_triple (gw : Gateway σ) (method : Method) (path : String)
    (payload : Option (List (String × JVal))) :
    Cli.Triple P (fun o log => ∃ log₀ req, P log₀ ∧ log = log₀ ++ [(req, o)] ∧
      req.method = method ∧ req.path = path ∧ req.payload = payload)
      E (send gw method path payload) :=
  (send_wtriple (fun e _ log => hE e log) gw method path payload).post
    fun _ _ _ ⟨_, log₀, req, h, _, hlog, hrest⟩ => ⟨log₀, req, h, hlog, hrest⟩

end LogPrimitives

end MsggwManager
