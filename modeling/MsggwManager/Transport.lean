import MsggwManager.Python.Json

/-!
# The world a run of the script lives in, and its transport

A run reads the environment (`MSGGW_BASE_URL`, `MSGGW_API_KEY`), the operator's terminal (lines,
Ctrl+D, Ctrl+C) and the randomness source, and it talks to the gateway. A `World` holds all of
these, with the gateway's state and the log of every request sent and what came back. A piece of
the script is a `Cli σ α`, an `EStateM` over the world: an exception keeps the world as it was
when raised, since what was typed stays consumed and what was sent stays sent.

The gateway is any `Gateway σ`: a state and, for each request, an answer, either a response or a
network-layer fault (`requests.RequestException`). Every call site of the script catches the
fault, so `send` hands it back as a value.

`get_json`, `post_json`, `put_json` and `patch_json` compute `base_url()` and `auth_tuple()`
before every request. `auth_tuple()` asks for the key with `getpass` whenever `MSGGW_API_KEY` is
unset or left at its placeholder, at every request, and ends the process with `sys.exit(1)` on an
empty answer (`authTuple_eq`). `requests` then encodes the credentials as latin-1 for the
Basic-auth header, and a key with a character above `U+00FF` raises `UnicodeEncodeError`, which
is no `RequestException`: nothing is sent and no call site catches it (`send_error`).

What the script prints is not modelled; the model takes every print to succeed, as it does on a
UTF-8 terminal with the Unicode strings the gateway's JSON decodes to.
-/

namespace MsggwManager

/-- What the operator does at a prompt. -/
inductive Key
  /-- Types a line (without its newline). -/
  | line (s : String)
  /-- Presses Ctrl+D. -/
  | eof
  /-- Presses Ctrl+C. -/
  | interrupt
  deriving Repr

/-- The two environment variables the script reads. -/
structure Env where
  baseUrl : Option String
  apiKey : Option String
  deriving Repr

inductive Method
  | get
  | post
  | put
  | patch
  deriving Repr, DecidableEq

/-- A request as `requests` sends it: the URL is `base ++ path`, the body `json.dumps(payload)`. -/
structure Request where
  method : Method
  base : String
  path : String
  auth : String × String
  payload : Option (List (String × JVal))
  deriving Repr

/-- A response: its status, its body text, and what `resp.json()` gives (`none` where it
raises). -/
structure Response where
  status : Nat
  text : String
  json : Option JVal
  deriving Repr

/-- `resp.json()`. -/
def Response.decode (r : Response) : Except Exc JVal :=
  match r.json with
  | some v => .ok v
  | none => .error .jsonDecodeError

/-- What a request comes back with. -/
inductive Outcome
  | response (r : Response)
  | networkError (msg : String)
  deriving Repr

/-- A gateway: how it answers each request from each of its states. -/
structure Gateway (σ : Type) where
  respond : σ → Request → Outcome × σ

/-- Everything outside the script that a run reads or writes. -/
structure World (σ : Type) where
  env : Env
  /-- What the operator will do at the coming prompts; `[]` is the end of input. -/
  keys : List Key
  /-- The indices `secrets.choice` will draw, in order. -/
  entropy : List (Fin 62)
  server : σ
  /-- Every request sent, with its outcome, oldest first. -/
  log : List (Request × Outcome)

/-- A piece of the script. -/
abbrev Cli (σ α : Type) := EStateM Exc (World σ) α

/-- The world a run ends in, whether it returned or raised. -/
def Cli.world {σ α : Type} : EStateM.Result Exc (World σ) α → World σ
  | .ok _ w => w
  | .error _ w => w

@[simp] theorem Cli.world_ok {σ α : Type} (a : α) (w : World σ) :
    Cli.world (.ok a w : EStateM.Result Exc (World σ) α) = w := rfl

@[simp] theorem Cli.world_error {σ α : Type} (e : Exc) (w : World σ) :
    Cli.world (.error e w : EStateM.Result Exc (World σ) α) = w := rfl

variable {σ : Type}

section
variable {α β : Type}

@[simp] theorem Cli.bind_apply (x : Cli σ α) (f : α → Cli σ β) (w : World σ) :
    (x >>= f) w = match x w with
      | .ok a w' => f a w'
      | .error e w' => .error e w' := by
  cases h : x w <;> simp [bind, EStateM.bind, h]

@[simp] theorem Cli.pure_apply (a : α) (w : World σ) : (pure a : Cli σ α) w = .ok a w := rfl

@[simp] theorem Cli.throw_apply (e : Exc) (w : World σ) :
    (throw e : Cli σ α) w = .error e w := rfl

@[simp] theorem Cli.map_apply (f : α → β) (x : Cli σ α) (w : World σ) :
    (f <$> x) w = match x w with
      | .ok a w' => .ok (f a) w'
      | .error e w' => .error e w' := by
  cases h : x w <;> simp [Functor.map, EStateM.map, h]

@[simp] theorem Cli.get_apply (w : World σ) : (get : Cli σ (World σ)) w = .ok w w := rfl

theorem Cli.world_bind_pure (x : Cli σ α) (f : α → β) (w : World σ) :
    Cli.world ((x >>= fun a => pure (f a)) w) = Cli.world (x w) := by
  rw [Cli.bind_apply]
  cases x w <;> rfl

theorem Cli.bind_pure_ok {x : Cli σ α} {f : α → β} {b : β} {w w' : World σ}
    (h : (x >>= fun a => pure (f a)) w = .ok b w') : ∃ a, x w = .ok a w' ∧ f a = b := by
  rw [Cli.bind_apply] at h
  cases hx : x w <;> rw [hx] at h <;> cases h
  exact ⟨_, rfl, rfl⟩

theorem Cli.bind_pure_error {x : Cli σ α} {f : α → β} {e : Exc} {w w' : World σ}
    (h : (x >>= fun a => pure (f a)) w = .error e w') : x w = .error e w' := by
  rw [Cli.bind_apply] at h
  cases hx : x w <;> rw [hx] at h <;> cases h
  rfl

end

section
variable {α β : Type}

theorem Cli.foldlM_cons_ok {f : β → α → Cli σ β} {a : α} {l : List α} {b b' : β}
    {w w' : World σ} (h : (a :: l).foldlM f b w = .ok b' w') :
    ∃ b₁ w₁, f b a w = .ok b₁ w₁ ∧ l.foldlM f b₁ w₁ = .ok b' w' := by
  rw [List.foldlM_cons, Cli.bind_apply] at h
  cases h₁ : f b a w with
  | ok b₁ w₁ => rw [h₁] at h; exact ⟨b₁, w₁, rfl, h⟩
  | error e w₁ => rw [h₁] at h; cases h

theorem Cli.world_foldlM_cons (f : β → α → Cli σ β) (a : α) (l : List α) (b : β)
    (w : World σ) :
    Cli.world ((a :: l).foldlM f b w) =
      match f b a w with
      | .ok b₁ w₁ => Cli.world (l.foldlM f b₁ w₁)
      | .error _ w₁ => w₁ := by
  rw [List.foldlM_cons, Cli.bind_apply]
  cases f b a w <;> rfl

theorem Cli.foldlM_cons_error {f : β → α → Cli σ β} {a : α} {l : List α} {b : β} {e : Exc}
    {w w' : World σ} (h : (a :: l).foldlM f b w = .error e w') :
    f b a w = .error e w' ∨ ∃ b₁ w₁, f b a w = .ok b₁ w₁ ∧ l.foldlM f b₁ w₁ = .error e w' := by
  rw [List.foldlM_cons, Cli.bind_apply] at h
  cases h₁ : f b a w with
  | ok b₁ w₁ => rw [h₁] at h; exact .inr ⟨b₁, w₁, rfl, h⟩
  | error e₁ w₁ => rw [h₁] at h; cases h; exact .inl rfl

end

/-! ## The terminal -/

/-- `input()` (and `getpass()`, which reads the same terminal without echo). -/
def input : Cli σ String := fun w =>
  match w.keys with
  | [] => .error .eofError w
  | .line s :: rest => .ok s { w with keys := rest }
  | .eof :: rest => .error .eofError { w with keys := rest }
  | .interrupt :: rest => .error .keyboardInterrupt { w with keys := rest }

/-- Runs an `Except` computation of the script's pure helpers. -/
def liftExcept {α : Type} : Except Exc α → Cli σ α
  | .ok a => pure a
  | .error e => throw e

/-! ## Configuration and transport -/

/-- The value of `API_KEY`. -/
def Env.key (env : Env) : String := env.apiKey.getD "API_KEY"

/-- Whether `auth_tuple()` uses the environment's key without asking. -/
def Env.keyConfigured (env : Env) : Bool := !env.key.isEmpty && env.key != "API_KEY"

/-- `base_url()`. -/
def baseUrl (env : Env) : String := Py.rstrip '/' (env.baseUrl.getD "http://API_URL")

/-- `auth_tuple()`. -/
def authTuple : Cli σ (String × String) := do
  let env := (← get).env
  if env.keyConfigured then return ("apikey", env.key)
  let key := Py.strip (← input)
  if key.isEmpty then throw (.systemExit 1)
  return ("apikey", key)

/-- The gateway answers `req`, and the world logs the exchange. -/
def World.exchange (w : World σ) (gw : Gateway σ) (req : Request) : Outcome × World σ :=
  let answer := gw.respond w.server req
  (answer.1, { w with server := answer.2, log := w.log ++ [(req, answer.1)] })

/-- Whether `s.encode("latin1")` succeeds: every character is below `U+0100`. -/
def Py.encodesLatin1 (s : String) : Bool := s.data.all fun c => c.toNat < 0x100

/-- One request: `requests.<method>(base_url() + path, auth=auth_tuple(), ...)`. Before anything
goes out, `_basic_auth_str` encodes the user and the key as latin-1. -/
def send (gw : Gateway σ) (method : Method) (path : String)
    (payload : Option (List (String × JVal))) : Cli σ Outcome := do
  let base := baseUrl (← get).env
  let auth ← authTuple
  if !(Py.encodesLatin1 auth.1 && Py.encodesLatin1 auth.2) then throw .unicodeEncodeError
  modifyGet fun w => w.exchange gw ⟨method, base, path, auth, payload⟩

/-- `get_json(path)`. -/
def getJson (gw : Gateway σ) (path : String) : Cli σ Outcome := send gw .get path none

/-- `post_json(path, payload)`. -/
def postJson (gw : Gateway σ) (path : String) (payload : List (String × JVal)) : Cli σ Outcome :=
  send gw .post path (some payload)

/-- `put_json(path, payload)`. -/
def putJson (gw : Gateway σ) (path : String) (payload : List (String × JVal)) : Cli σ Outcome :=
  send gw .put path (some payload)

/-- `patch_json(path, payload)`. -/
def patchJson (gw : Gateway σ) (path : String) (payload : List (String × JVal)) :
    Cli σ Outcome :=
  send gw .patch path (some payload)

/-- How `auth_tuple()` can stop a run: `sys.exit(1)` on an empty key, or Ctrl+D, Ctrl+C or the
end of input at its prompt. -/
def Exc.IsAuthStop : Exc → Prop
  | .systemExit 1 | .eofError | .keyboardInterrupt => True
  | _ => False

/-- How a request can fail to go out: a stop at `auth_tuple()`'s prompt, which is only asked with
the key unset, or a key `requests` cannot encode, which for a configured key is the environment's
own. -/
def Exc.IsSendStop (env : Env) (e : Exc) : Prop :=
  env.keyConfigured = false ∧ e.IsAuthStop ∨
    e = .unicodeEncodeError ∧ (env.keyConfigured → Py.encodesLatin1 env.key = false)

theorem authTuple_of_keyConfigured {w : World σ} (h : w.env.keyConfigured) :
    authTuple w = .ok ("apikey", w.env.key) w := by
  simp [authTuple, h]

theorem input_ok {w w' : World σ} {s : String} (h : input w = .ok s w') :
    w' = { w with keys := w'.keys } := by
  unfold input at h
  split at h <;> cases h
  rfl

theorem input_error {w w' : World σ} {e : Exc} (h : input w = .error e w') :
    w' = { w with keys := w'.keys } ∧ (e = .eofError ∨ e = .keyboardInterrupt) := by
  unfold input at h
  split at h <;> cases h <;> simp

theorem authTuple_eq (w : World σ) :
    authTuple w =
      if w.env.keyConfigured then .ok ("apikey", w.env.key) w
      else
        match input w with
        | .ok s w' => if (Py.strip s).isEmpty then .error (.systemExit 1) w'
          else .ok ("apikey", Py.strip s) w'
        | .error e w' => .error e w' := by
  by_cases hc : w.env.keyConfigured
  · simp [authTuple, hc]
  · cases hin : input w with
    | ok s w' => by_cases hs : (Py.strip s).isEmpty <;> simp [authTuple, hc, hin, hs]
    | error e w' => simp [authTuple, hc, hin]

theorem authTuple_ok {w w' : World σ} {auth : String × String} (h : authTuple w = .ok auth w') :
    w' = { w with keys := w'.keys } := by
  rw [authTuple_eq] at h
  split at h
  · cases h; rfl
  · split at h
    · rename_i hin
      split at h
      · cases h
      · cases h; exact input_ok hin
    · cases h

theorem authTuple_error {w w' : World σ} {e : Exc} (h : authTuple w = .error e w') :
    w' = { w with keys := w'.keys } ∧ w.env.keyConfigured = false ∧ e.IsAuthStop := by
  rw [authTuple_eq] at h
  split at h
  · cases h
  · rename_i hconf
    split at h
    · rename_i hin
      split at h
      · cases h; exact ⟨input_ok hin, by simpa using hconf, trivial⟩
      · cases h
    · rename_i hin
      cases h
      obtain ⟨hw, he | he⟩ := input_error hin <;> subst he <;>
        exact ⟨hw, by simpa using hconf, trivial⟩

theorem authTuple_auth {w w' : World σ} {auth : String × String} (h : authTuple w = .ok auth w') :
    auth.1 = "apikey" ∧ auth.2 ≠ "" ∧ (w.env.keyConfigured → auth.2 = w.env.key) := by
  rw [authTuple_eq] at h
  split at h
  · rename_i hconf
    cases h
    refine ⟨rfl, fun hkey => ?_, fun _ => rfl⟩
    simp only [Env.keyConfigured, Bool.and_eq_true, Bool.not_eq_true'] at hconf
    simp only at hkey
    rw [hkey] at hconf
    exact absurd hconf.1 (by decide)
  · rename_i hconf
    split at h
    · split at h
      · cases h
      · rename_i hblank
        cases h
        refine ⟨rfl, fun hkey => hblank ?_, fun h' => absurd h' hconf⟩
        simp only at hkey
        rw [hkey]
        rfl
    · cases h

theorem send_eq (gw : Gateway σ) (method : Method) (path : String)
    (payload : Option (List (String × JVal))) (w : World σ) :
    send gw method path payload w =
      match authTuple w with
      | .ok auth w' =>
        if Py.encodesLatin1 auth.1 && Py.encodesLatin1 auth.2 then
          let x := w'.exchange gw ⟨method, baseUrl w.env, path, auth, payload⟩
          .ok x.1 x.2
        else .error .unicodeEncodeError w'
      | .error e w' => .error e w' := by
  simp only [send, bind, EStateM.bind, get, getThe, MonadStateOf.get, EStateM.get, modifyGet,
    MonadStateOf.modifyGet, EStateM.modifyGet]
  cases authTuple w with
  | ok auth w' =>
    by_cases h : Py.encodesLatin1 auth.1 && Py.encodesLatin1 auth.2 <;> simp [h] <;> rfl
  | error e w' => rfl

theorem send_ok {gw : Gateway σ} {method : Method} {path : String}
    {payload : Option (List (String × JVal))} {w w' : World σ} {o : Outcome}
    (h : send gw method path payload w = .ok o w') :
    ∃ auth rest, (gw.respond w.server ⟨method, baseUrl w.env, path, auth, payload⟩).1 = o ∧
      w' = { w with
        keys := rest
        server := (gw.respond w.server ⟨method, baseUrl w.env, path, auth, payload⟩).2
        log := w.log ++ [(⟨method, baseUrl w.env, path, auth, payload⟩, o)] } := by
  rw [send_eq] at h
  cases hauth : authTuple w with
  | ok auth w1 =>
    rw [hauth] at h
    simp only at h
    split_ifs at h
    cases h
    refine ⟨auth, w1.keys, ?_, ?_⟩ <;> rw [authTuple_ok hauth] <;> rfl
  | error e w1 => rw [hauth] at h; cases h

/-- **A request that did not go out stopped at the key prompt, or on a key that is not latin-1,
and sent nothing.** -/
theorem send_error {gw : Gateway σ} {method : Method} {path : String}
    {payload : Option (List (String × JVal))} {w w' : World σ} {e : Exc}
    (h : send gw method path payload w = .error e w') :
    w' = { w with keys := w'.keys } ∧ e.IsSendStop w.env := by
  rw [send_eq] at h
  cases hauth : authTuple w with
  | ok auth w1 =>
    rw [hauth] at h
    simp only at h
    split_ifs at h with henc
    cases h
    obtain ⟨huser, -, hkey⟩ := authTuple_auth hauth
    refine ⟨authTuple_ok hauth, .inr ⟨rfl, fun hconf => ?_⟩⟩
    have hapikey : Py.encodesLatin1 "apikey" = true := by decide
    rw [huser, hkey hconf, hapikey] at henc
    simpa using henc
  | error e' w1 =>
    rw [hauth] at h
    cases h
    obtain ⟨hw, hconf, hstop⟩ := authTuple_error hauth
    exact ⟨hw, .inl ⟨hconf, hstop⟩⟩

theorem Exc.not_isSendStop {env : Env} {e : Exc} (hconf : env.keyConfigured)
    (hkey : Py.encodesLatin1 env.key) : ¬e.IsSendStop env := by
  rintro (⟨h, -⟩ | ⟨-, h⟩)
  · rw [hconf] at h; cases h
  · rw [h hconf] at hkey; cases hkey

/-- A 2xx status. -/
def is2xx (status : Nat) : Bool := 200 ≤ status && status < 300

/-! ## Passwords -/

/-- `string.ascii_letters + string.digits`. -/
def alphabet : List Char := "abcdefghijklmnopqrstuvwxyzABCDEFGHIJKLMNOPQRSTUVWXYZ0123456789".toList

theorem alphabet_length : alphabet.length = 62 := rfl

/-- `secrets.choice(alphabet)` when the source draws index `i`. -/
def alphabetChar (i : Fin 62) : Char := alphabet.get (i.cast alphabet_length.symm)

/-- The test that ends the loop of `generate_password`. -/
def strongPassword (pwd : List Char) : Bool :=
  pwd.any Char.isLower && pwd.any Char.isUpper && pwd.any isDigitChar

/-- The loop of `generate_password`: attempts of `length` draws until one is strong, at most
`fuel` of them; `none` when the draws run out first. -/
def generateFrom (length : Nat) : Nat → List (Fin 62) → Option (String × List (Fin 62))
  | 0, _ => none
  | fuel + 1, draws =>
    if draws.length < length then none
    else
      let pwd := (draws.take length).map alphabetChar
      if strongPassword pwd then some (String.mk pwd, draws.drop length)
      else generateFrom length fuel (draws.drop length)

/-- `generate_password(length)`. -/
def generatePassword (length : Nat) : Cli σ String := fun w =>
  match generateFrom length (w.entropy.length + 1) w.entropy with
  | some (pwd, rest) => .ok pwd { w with entropy := rest }
  | none => .error .entropyExhausted { w with entropy := [] }

theorem alphabetChar_mem (i : Fin 62) : alphabetChar i ∈ alphabet := List.get_mem _ _ _

theorem generateFrom_spec {length fuel : Nat} {draws rest : List (Fin 62)} {pwd : String}
    (h : generateFrom length fuel draws = some (pwd, rest)) :
    pwd.length = length ∧ strongPassword pwd.toList ∧ ∀ c ∈ pwd.toList, c ∈ alphabet := by
  induction fuel generalizing draws with
  | zero => cases h
  | succ fuel ih =>
    simp only [generateFrom] at h
    split_ifs at h with hlen hstrong
    · cases h
      refine ⟨?_, hstrong, fun c hc => ?_⟩
      · simp only [String.length, List.length_map, List.length_take]
        omega
      · obtain ⟨i, -, rfl⟩ := List.mem_map.mp hc
        exact alphabetChar_mem i
    · exact ih h

/-- **A generated password has `length` characters of the alphabet, among them a lowercase
letter, an uppercase letter and a digit.** -/
theorem generatePassword_spec {length : Nat} {w w' : World σ} {pwd : String}
    (h : generatePassword length w = .ok pwd w') :
    pwd.length = length ∧ (∀ c ∈ pwd.toList, c ∈ alphabet) ∧
      (∃ c ∈ pwd.toList, c.isLower) ∧ (∃ c ∈ pwd.toList, c.isUpper) ∧
      ∃ c ∈ pwd.toList, isDigitChar c := by
  unfold generatePassword at h
  split at h
  · rename_i rest hgen
    cases h
    obtain ⟨hlen, hstrong, hmem⟩ := generateFrom_spec hgen
    simp only [strongPassword, Bool.and_eq_true, List.any_eq_true] at hstrong
    exact ⟨hlen, hmem, hstrong.1.1, hstrong.1.2, hstrong.2⟩
  · cases h

theorem generatePassword_spec_three :
    generatePassword 3 (⟨⟨none, none⟩, [], [0, 26, 52], (), []⟩ : World Unit) =
        .ok "aA0" ⟨⟨none, none⟩, [], [], (), []⟩ ∧
      "aA0".length = 3 ∧ (∀ c ∈ "aA0".toList, c ∈ alphabet) ∧ (∃ c ∈ "aA0".toList, c.isLower) ∧
      (∃ c ∈ "aA0".toList, c.isUpper) ∧ ∃ c ∈ "aA0".toList, isDigitChar c :=
  ⟨rfl, @generatePassword_spec Unit 3 ⟨⟨none, none⟩, [], [0, 26, 52], (), []⟩
    ⟨⟨none, none⟩, [], [], (), []⟩ "aA0" rfl⟩

end MsggwManager
