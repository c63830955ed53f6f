import MsggwManager.Clients.Lookup
import MsggwManager.Numbers.Parse

/-!
# Adding numbers to a client

`add_numbers_to_client(identifier, numbers, carrier, skip_existing)` looks the client up, takes
the numbers it already has as an exclusion list when `skip_existing` holds (`existingNumbers`),
and then, for each number in order (`addNumber`): a number already in the list is skipped
without a request; any other is posted to `/clients/{id}/numbers`, and the answer decides
(`tallyOutcome`): a 2xx adds it (and appends it to the list), an error whose text contains
`already exists` skips it, anything else, a network fault included, fails it.

The loop body is one step of a state machine over `(exclusion list, tally)` and the world.
`addNumber_eq` says once what a step can do; the results about whole batches
(`Numbers/Batch.lean`) are inductions over the batch from it.
-/

namespace MsggwManager

/-- The three counters of `add_numbers_to_client`, which it prints when done. -/
structure Tally where
  added : Nat
  skipped : Nat
  failed : Nat
  deriving Repr, DecidableEq

/-- All three counters together. -/
def Tally.total (t : Tally) : Nat := t.added + t.skipped + t.failed

/-- `str(err)` of a failed answer: `body.get("error", str(body))` of `resp.json()`, or
`resp.text` where either raises. -/
def errorText (resp : Response) : String :=
  match resp.decode with
  | .ok body =>
    match body.get "error" (.str body.toStr) with
    | .ok err => err.toStr
    | .error _ => resp.text
  | .error _ => resp.text

/-- `"already exists" in str(err).lower()`. -/
def alreadyExists (resp : Response) : Bool :=
  Py.contains (Py.lower (errorText resp)) "already exists"

example : alreadyExists ⟨400, "", some (.obj [("msg", .str "\x8already exists")])⟩ := by decide

/-- `num in existing`. -/
def Py.inList (existing : List JVal) (num : String) : Bool := existing.any (·.eqStr num)

theorem Py.inList_append_single (existing : List JVal) (m n : String) :
    Py.inList (existing ++ [.str m]) n = (Py.inList existing n || m == n) := by
  simp [Py.inList, JVal.eqStr]

/-- Whether an answer is a 2xx. -/
def Outcome.accepted : Outcome → Bool
  | .response resp => is2xx resp.status
  | .networkError _ => false

/-- The rest of the loop body once `num` was posted and `o` came back. The failure branch prints
`err`, which the model takes to succeed: an `error` string holding a lone surrogate, which a
`JVal` cannot, would make that `print` raise `UnicodeEncodeError`. -/
def tallyOutcome (acc : List JVal × Tally) (num : String) : Outcome → List JVal × Tally
  | .networkError _ => (acc.1, { acc.2 with failed := acc.2.failed + 1 })
  | .response resp =>
    if is2xx resp.status then (acc.1 ++ [.str num], { acc.2 with added := acc.2.added + 1 })
    else if alreadyExists resp then (acc.1, { acc.2 with skipped := acc.2.skipped + 1 })
    else (acc.1, { acc.2 with failed := acc.2.failed + 1 })

variable {σ : Type}

/-- The loop body of `add_numbers_to_client` for `num`, over `(existing, counters)`. -/
def addNumber (gw : Gateway σ) (clientId : JVal) (carrier : String) (acc : List JVal × Tally)
    (num : String) : Cli σ (List JVal × Tally) := do
  if Py.inList acc.1 num then
    return (acc.1, { acc.2 with skipped := acc.2.skipped + 1 })
  else
    let o ← postJson gw (numbersPath clientId) (numberPayload num carrier)
    return tallyOutcome acc num o

/-- The loop of `add_numbers_to_client`, from the exclusion list `existing` and zero counters. -/
def addNumbersLoop (gw : Gateway σ) (clientId : JVal) (carrier : String) (existing : List JVal)
    (numbers : List String) : Cli σ (List JVal × Tally) :=
  numbers.foldlM (addNumber gw clientId carrier) (existing, ⟨0, 0, 0⟩)

/-- The exclusion list: `[n.get("number", "") for n in client.get("numbers", [])]`. -/
def existingNumbers (client : JVal) : Except Exc (List JVal) := do
  let numbers ← (← client.get "numbers" (.arr [])).iter
  numbers.mapM fun n => n.get "number" (.str "")

/-- `add_numbers_to_client(identifier, numbers, carrier, skip_existing)`: the counters it
prints, or `none` when the client is not found. -/
def addNumbersToClient (gw : Gateway σ) (identifier : String) (numbers : List String)
    (carrier : String) (skipExisting : Bool) : Cli σ (Option Tally) := do
  match ← getClientByIdentifier gw identifier with
  | none => return none
  | some client =>
    if !client.truthy then return none
    else
      let clientId ← liftExcept (client.get "id" .null)
      let existing ← (if skipExisting then liftExcept (existingNumbers client) else pure [])
      let result ← addNumbersLoop gw clientId carrier existing numbers
      return some result.2

/-! ## One step -/

section Step

variable (gw : Gateway σ) (clientId : JVal) (carrier : String)

/-- **What one pass of the loop body can do**: skip a listed number without a request, or post
it and go on with `tallyOutcome`, or stop where the post cannot go out. -/
theorem addNumber_eq (acc : List JVal × Tally) (num : String) (w : World σ) :
    addNumber gw clientId carrier acc num w =
      if Py.inList acc.1 num then .ok (acc.1, { acc.2 with skipped := acc.2.skipped + 1 }) w
      else
        match postJson gw (numbersPath clientId) (numberPayload num carrier) w with
        | .ok o w' => .ok (tallyOutcome acc num o) w'
        | .error e w' => .error e w' := by
  unfold addNumber
  split
  · rfl
  · simp only [Cli.bind_apply, Cli.pure_apply]
    cases postJson gw (numbersPath clientId) (numberPayload num carrier) w <;> rfl

theorem tallyOutcome_total (acc : List JVal × Tally) (num : String) (o : Outcome) :
    (tallyOutcome acc num o).2.total = acc.2.total + 1 := by
  cases o with
  | networkError => simp [tallyOutcome, Tally.total]; omega
  | response resp =>
    simp only [tallyOutcome]
    split_ifs <;> simp [Tally.total] <;> omega

theorem tallyOutcome_fst (acc : List JVal × Tally) (num : String) (o : Outcome) :
    (tallyOutcome acc num o).1 = if o.accepted then acc.1 ++ [.str num] else acc.1 := by
  cases o with
  | networkError => rfl
  | response resp =>
    simp only [tallyOutcome, Outcome.accepted]
    split_ifs <;> rfl

theorem tallyOutcome_added (acc : List JVal × Tally) (num : String) (o : Outcome) :
    (tallyOutcome acc num o).2.added = acc.2.added + if o.accepted then 1 else 0 := by
  cases o with
  | networkError => rfl
  | response resp =>
    simp only [tallyOutcome, Outcome.accepted]
    split_ifs <;> rfl

theorem tallyOutcome_accepted (acc : List JVal × Tally) (num : String) {resp : Response}
    (h : is2xx resp.status) :
    tallyOutcome acc num (.response resp) =
      (acc.1 ++ [.str num], { acc.2 with added := acc.2.added + 1 }) := by
  simp [tallyOutcome, h]

theorem tallyOutcome_alreadyExists (acc : List JVal × Tally) (num : String) {resp : Response}
    (h : is2xx resp.status = false) (hexists : alreadyExists resp) :
    tallyOutcome acc num (.response resp) =
      (acc.1, { acc.2 with skipped := acc.2.skipped + 1 }) := by
  simp [tallyOutcome, h, hexists]

end Step

end MsggwManager

namespace MsggwManager

variable {σ : Type} {gw : Gateway σ} {clientId : JVal} {carrier : String}

theorem addNumber_ok {acc acc' : List JVal × Tally} {num : String} {w w' : World σ}
    (h : addNumber gw clientId carrier acc num w = .ok acc' w') :
    (Py.inList acc.1 num ∧ acc' = (acc.1, { acc.2 with skipped := acc.2.skipped + 1 }) ∧
      w' = w) ∨
    (Py.inList acc.1 num = false ∧ ∃ auth rest,
      let req : Request :=
        ⟨.post, baseUrl w.env, numbersPath clientId, auth, some (numberPayload num carrier)⟩
      acc' = tallyOutcome acc num (gw.respond w.server req).1 ∧
      w' = { w with
        keys := rest
        server := (gw.respond w.server req).2
        log := w.log ++ [(req, (gw.respond w.server req).1)] }) := by
  rw [addNumber_eq] at h
  split_ifs at h with hin
  · cases h
    exact .inl ⟨hin, rfl, rfl⟩
  · cases hpost : postJson gw (numbersPath clientId) (numberPayload num carrier) w with
    | ok o w₁ =>
      rw [hpost] at h
      cases h
      obtain ⟨auth, rest, rfl, rfl⟩ := send_ok hpost
      exact .inr ⟨by simpa using hin, auth, rest, rfl, rfl⟩
    | error e w₁ => rw [hpost] at h; cases h

theorem addNumber_error {acc : List JVal × Tally} {num : String} {e : Exc} {w w' : World σ}
    (h : addNumber gw clientId carrier acc num w = .error e w') :
    w' = { w with keys := w'.keys } ∧ e.IsSendStop w.env := by
  rw [addNumber_eq] at h
  split_ifs at h
  cases hpost : postJson gw (numbersPath clientId) (numberPayload num carrier) w with
  | ok o w₁ => rw [hpost] at h; cases h
  | error e₁ w₁ => rw [hpost] at h; cases h; exact send_error hpost

theorem addNumber_env {acc acc' : List JVal × Tally} {num : String} {w w' : World σ}
    (h : addNumber gw clientId carrier acc num w = .ok acc' w') : w'.env = w.env := by
  rcases addNumber_ok h with ⟨-, -, rfl⟩ | ⟨-, auth, rest, -, rfl⟩ <;> rfl

theorem addNumber_total {acc acc' : List JVal × Tally} {num : String} {w w' : World σ}
    (h : addNumber gw clientId carrier acc num w = .ok acc' w') :
    acc'.2.total = acc.2.total + 1 := by
  rcases addNumber_ok h with ⟨-, rfl, -⟩ | ⟨-, auth, rest, rfl, -⟩
  · simp [Tally.total]; omega
  · exact tallyOutcome_total _ _ _

/-! ## What the operation sends -/

section Frame

variable (F : ScriptFrame gw)

theorem addNumber_keeps_of {p : Progress σ} (acc : List JVal × Tally) {num : String}
    (hpost : Cli.Keeps p (postJson gw (numbersPath clientId) (numberPayload num carrier))) :
    Cli.Keeps p (addNumber gw clientId carrier acc num) :=
  Cli.keeps_ite (fun _ => Cli.keeps_pure _) fun _ => Cli.keeps_bind hpost fun _ => Cli.keeps_pure _

theorem addNumber_keeps (acc : List JVal × Tally) {num : String} (hnum : ValidNumber num) :
    Cli.Keeps F.toProgress (addNumber gw clientId carrier acc num) :=
  addNumber_keeps_of acc (F.keepsSend _ _ _ (.addNumber hnum))

theorem addNumbersToClient_keeps (identifier : String) {numbers : List String}
    (hnums : ∀ n ∈ numbers, ValidNumber n) (skipExisting : Bool) :
    Cli.Keeps F.toProgress (addNumbersToClient gw identifier numbers carrier skipExisting) := by
  refine Cli.keeps_bind (getClientByIdentifier_keeps F identifier) fun client => ?_
  cases client with
  | none => exact Cli.keeps_pure _
  | some client =>
    refine Cli.keeps_ite (fun _ => Cli.keeps_pure _) fun _ =>
      Cli.keeps_bind (Cli.keeps_liftExcept _) fun clientId =>
        Cli.keeps_bind (Cli.keeps_ite (fun _ => Cli.keeps_liftExcept _) fun _ => Cli.keeps_pure _)
          fun existing => Cli.keeps_bind ?_ fun _ => Cli.keeps_pure _
    exact Cli.keeps_foldlM (fun acc n hn => addNumber_keeps F acc (hnums n hn)) _

end Frame

end MsggwManager
