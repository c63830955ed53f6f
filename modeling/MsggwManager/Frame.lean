import MsggwManager.Api

/-!
# What a piece of the script keeps, however it ends

A `Progress` relates a world to a later one; it holds over no step and composes. A piece of the
script `Keeps` it when the world it ends in, whether it returned or raised, is related to the one
it started from. `pure`, `throw`, `liftExcept`, `bind`, `if` and `foldlM` keep every progress
relation, so a piece built from primitives that keep one keeps it too.

A `ScriptFrame` is a progress relation that the script's primitives keep: a prompt (`input`, which
`getpass` shares), a generated password, and a request of the API (`Endpoint`). Each operation of
the script keeps every `ScriptFrame`, and so does a whole session. Three are used:

* `ScriptFrame.keys`: the operator's keys are only consumed, from the front;
* `ScriptFrame.endpoints`: every request sent is an `Endpoint`;
* `ScriptFrame.authenticated`: the environment never changes, and every request sent goes to
  `base_url()` with the API key of `auth_tuple()`.
-/

namespace MsggwManager

variable {σ : Type}

/-- A relation between a world and a later one that holds over no step and over two steps in
sequence. -/
structure Progress (σ : Type) where
  rel : World σ → World σ → Prop
  refl : ∀ w, rel w w
  trans : ∀ {w₁ w₂ w₃}, rel w₁ w₂ → rel w₂ w₃ → rel w₁ w₃

/-- `x` relates every world to the one it ends in, whether it returns or raises. -/
def Cli.Keeps {α : Type} (p : Progress σ) (x : Cli σ α) : Prop :=
  ∀ w, p.rel w (Cli.world (x w))

/-! ## The combinators keep every progress relation -/

section Combinators

variable {p : Progress σ} {α β : Type}

theorem Cli.keeps_pure (a : α) : Cli.Keeps p (pure a : Cli σ α) := fun w => p.refl w

theorem Cli.keeps_throw (e : Exc) : Cli.Keeps p (throw e : Cli σ α) := fun w => p.refl w

theorem Cli.keeps_liftExcept (x : Except Exc α) : Cli.Keeps p (liftExcept x : Cli σ α) := by
  cases x <;> exact fun w => p.refl w


theorem Cli.keeps_bind_post {Q : α → Prop} {x : Cli σ α} {f : α → Cli σ β} (hx : Cli.Keeps p x)
    (hQ : ∀ w a w', x w = .ok a w' → Q a) (hf : ∀ a, Q a → Cli.Keeps p (f a)) :
    Cli.Keeps p (x >>= f) := by
  intro w
  have hw := hx w
  rw [Cli.bind_apply]
  cases h : x w with
  | ok a w' => rw [h] at hw; exact p.trans hw (hf a (hQ w a w' h) w')
  | error e w' => rw [h] at hw; exact hw

theorem Cli.keeps_bind {x : Cli σ α} {f : α → Cli σ β} (hx : Cli.Keeps p x)
    (hf : ∀ a, Cli.Keeps p (f a)) : Cli.Keeps p (x >>= f) :=
  Cli.keeps_bind_post (Q := fun _ => True) hx (fun _ _ _ _ => trivial) fun a _ => hf a

theorem Cli.keeps_ite {c : Prop} [Decidable c] {x y : Cli σ α} (hx : c → Cli.Keeps p x)
    (hy : ¬c → Cli.Keeps p y) : Cli.Keeps p (if c then x else y) := by
  split
  next h => exact hx h
  next h => exact hy h

theorem Cli.keeps_foldlM {f : β → α → Cli σ β} :
    ∀ {l : List α}, (∀ b, ∀ a ∈ l, Cli.Keeps p (f b a)) → ∀ b, Cli.Keeps p (l.foldlM f b)
  | [], _, b => Cli.keeps_pure b
  | a :: l, hf, b => by
    rw [List.foldlM_cons]
    exact Cli.keeps_bind (hf b a (List.mem_cons_self a l)) fun b' =>
      Cli.keeps_foldlM (fun b a ha => hf b a (List.mem_cons_of_mem _ ha)) b'

end Combinators

/-! ## The primitives -/

theorem input_world (w : World σ) :
    Cli.world (input w) = w ∨ ∃ k, w.keys = k :: (Cli.world (input w)).keys ∧
      Cli.world (input w) = { w with keys := (Cli.world (input w)).keys } := by
  unfold input
  split <;> simp_all

theorem authTuple_world (w : World σ) :
    Cli.world (authTuple w) = w ∨ Cli.world (authTuple w) = Cli.world (input w) := by
  rw [authTuple_eq]
  split
  · exact .inl rfl
  · right
    split <;> [split; skip] <;> simp_all

theorem send_world (gw : Gateway σ) (method : Method) (path : String)
    (payload : Option (List (String × JVal))) (w : World σ) :
    (Cli.world (send gw method path payload w)).keys = (Cli.world (authTuple w)).keys ∧
    (Cli.world (send gw method path payload w)).env = w.env ∧
    ∃ new, (Cli.world (send gw method path payload w)).log = w.log ++ new ∧
      ∀ e ∈ new, (∃ w₁, authTuple w = .ok e.1.auth w₁) ∧
        e.1 = ⟨method, baseUrl w.env, path, e.1.auth, payload⟩ := by
  rw [send_eq]
  cases hauth : authTuple w with
  | ok auth w₁ =>
    rw [authTuple_ok hauth]
    dsimp only
    split
    · exact ⟨rfl, rfl, _, rfl, by simp [hauth]⟩
    · exact ⟨rfl, rfl, [], by simp, by simp⟩
  | error e w₁ =>
    rw [(authTuple_error hauth).1]
    exact ⟨rfl, rfl, [], by simp, by simp⟩

theorem generatePassword_world (length : Nat) (w : World σ) :
    Cli.world (generatePassword length w) =
      { w with entropy := (Cli.world (generatePassword length w)).entropy } := by
  unfold generatePassword
  split <;> rfl

/-! ## Script frames -/

/-- A progress relation that the script's primitives keep: a prompt, a generated password, and a
request of the API. -/
structure ScriptFrame (gw : Gateway σ) extends Progress σ where
  keepsInput : Cli.Keeps toProgress input
  keepsGenerate : Cli.Keeps toProgress (generatePassword 24)
  keepsSend : ∀ m path payload, Endpoint m path payload →
    Cli.Keeps toProgress (send gw m path payload)

/-- The operator's keys are only consumed, from the front. -/
def Progress.keys : Progress σ where
  rel w w' := w'.keys <:+ w.keys
  refl w := List.suffix_refl w.keys
  trans h₁ h₂ := h₂.trans h₁

/-- Every request sent satisfies `P`: the log only grows, by such requests. -/
def Progress.sends (P : Request → Prop) : Progress σ where
  rel w w' := ∃ new, w'.log = w.log ++ new ∧ ∀ e ∈ new, P e.1
  refl w := ⟨[], by simp, by simp⟩
  trans := by
    rintro w₁ w₂ w₃ ⟨n₁, h₁, p₁⟩ ⟨n₂, h₂, p₂⟩
    refine ⟨n₁ ++ n₂, by rw [h₂, h₁, List.append_assoc], fun e he => ?_⟩
    rcases List.mem_append.mp he with he | he
    exacts [p₁ e he, p₂ e he]

theorem input_keys (w : World σ) : (Cli.world (input w)).keys <:+ w.keys := by
  rcases input_world w with h | ⟨k, hk, -⟩
  · rw [h]
  · rw [hk]
    exact List.suffix_cons k _

theorem input_log (w : World σ) : (Cli.world (input w)).log = w.log := by
  rcases input_world w with h | ⟨k, -, h⟩ <;> rw [h]

theorem authTuple_keys (w : World σ) : (Cli.world (authTuple w)).keys <:+ w.keys := by
  rcases authTuple_world w with h | h <;> rw [h]
  exact input_keys w

theorem send_keeps_sends {gw : Gateway σ} {P : Request → Prop} {m : Method} {path : String}
    {payload : Option (List (String × JVal))} (hP : ∀ base auth, P ⟨m, base, path, auth, payload⟩) :
    Cli.Keeps (Progress.sends P) (send gw m path payload) := fun w => by
  obtain ⟨new, h, hnew⟩ := (send_world gw m path payload w).2.2
  refine ⟨new, h, fun e he => ?_⟩
  rw [(hnew e he).2]
  exact hP _ _

/-- The environment stays, and once `API_KEY` is set no request reads a key of the operator. -/
def Progress.quiet : Progress σ where
  rel w w' := w'.env = w.env ∧ (w.env.keyConfigured → w'.keys = w.keys)
  refl _ := ⟨rfl, fun _ => rfl⟩
  trans := fun ⟨he₁, hk₁⟩ ⟨he₂, hk₂⟩ =>
    ⟨he₂.trans he₁, fun h => (hk₂ (he₁ ▸ h)).trans (hk₁ h)⟩

theorem send_quiet (gw : Gateway σ) (method : Method) (path : String)
    (payload : Option (List (String × JVal))) :
    Cli.Keeps Progress.quiet (send gw method path payload) := fun w => by
  obtain ⟨hkeys, henv, -⟩ := send_world gw method path payload w
  exact ⟨henv, fun h => by rw [hkeys, authTuple_of_keyConfigured h]; rfl⟩

/-- The keys frame: prompts consume keys, requests consume the key prompt's, passwords none. -/
def ScriptFrame.keys (gw : Gateway σ) : ScriptFrame gw where
  toProgress := Progress.keys
  keepsInput := input_keys
  keepsGenerate w := by
    show (Cli.world (generatePassword 24 w)).keys <:+ w.keys
    rw [generatePassword_world]
  keepsSend m path payload _ w := by
    show (Cli.world (send gw m path payload w)).keys <:+ w.keys
    rw [(send_world gw m path payload w).1]
    exact authTuple_keys w

/-- The endpoints frame: every request sent is one the script is meant to send. -/
def ScriptFrame.endpoints (gw : Gateway σ) : ScriptFrame gw where
  toProgress := Progress.sends Request.IsEndpoint
  keepsInput w := ⟨[], by simp [input_log], by simp⟩
  keepsGenerate w := ⟨[], by rw [generatePassword_world]; simp, by simp⟩
  keepsSend _ _ _ hend := send_keeps_sends fun _ _ => hend

/-- A request goes to `base_url()` with credentials `("apikey", key)`: a key that is not empty, and
the environment's when it is configured. -/
def Request.Authenticated (env : Env) (req : Request) : Prop :=
  req.base = baseUrl env ∧ req.auth.1 = "apikey" ∧ req.auth.2 ≠ "" ∧
    (env.keyConfigured → req.auth.2 = env.key)

/-- The environment stays, and every request sent is authenticated against it. -/
def Progress.authenticated : Progress σ where
  rel w w' := w'.env = w.env ∧ ∃ new, w'.log = w.log ++ new ∧ ∀ e ∈ new, e.1.Authenticated w.env
  refl w := ⟨rfl, [], by simp, by simp⟩
  trans := by
    rintro w₁ w₂ w₃ ⟨henv₁, n₁, h₁, p₁⟩ ⟨henv₂, n₂, h₂, p₂⟩
    refine ⟨henv₂.trans henv₁, n₁ ++ n₂, by rw [h₂, h₁, List.append_assoc], fun e he => ?_⟩
    rcases List.mem_append.mp he with he | he
    · exact p₁ e he
    · exact henv₁ ▸ p₂ e he

/-- The authentication frame: prompts and passwords send nothing, and every request carries
`auth_tuple()`'s credentials. -/
def ScriptFrame.authenticated (gw : Gateway σ) : ScriptFrame gw where
  toProgress := Progress.authenticated
  keepsInput w := by
    refine ⟨?_, [], by simp [input_log], by simp⟩
    rcases input_world w with h | ⟨k, -, h⟩ <;> rw [h]
  keepsGenerate w := ⟨by rw [generatePassword_world], [], by rw [generatePassword_world]; simp,
    by simp⟩
  keepsSend m path payload _ w := by
    obtain ⟨-, henv, new, h, hnew⟩ := send_world gw m path payload w
    refine ⟨henv, new, h, fun e he => ?_⟩
    obtain ⟨⟨w₁, hauth⟩, hreq⟩ := hnew e he
    obtain ⟨huser, hkey, hconf⟩ := authTuple_auth hauth
    rw [hreq]
    exact ⟨rfl, huser, hkey, hconf⟩

end MsggwManager
