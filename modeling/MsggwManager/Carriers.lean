import MsggwManager.Frame

/-!
# Carrier operations

`list_carriers()` fetches `GET /carriers` and prints a row per carrier. The rows read the gateway's
values with `.get`, `[:n]`, `> 0` and an aligned format, so a carrier that is not a dict, a name or
type that is not a string, or a limit that is not a number raises, and nothing catches it
(`renderCarrier`). `create_carrier_interactive()` asks for a name (and stops on a blank one), a
type, two credentials and two limits, then posts the record. `reload_carriers()` posts
`/carriers/reload`.

Each operation keeps every script frame (`listCarriers_keeps`, ...): the requests it sends are
endpoints, the carrier created has a name and one of the four types.
-/

namespace MsggwManager

/-- A row of the carrier table: the name and type sliced and aligned, the limits compared with 0. -/
def renderCarrier (c : JVal) : Except Exc Unit := do
  let name ← (← c.get "name" (.str "")).slice 20
  let ctype ← (← c.get "type" (.str "")).slice 12
  let _ ← c.get "active" (.bool true)
  let smsLimit ← c.get "sms_limit" (.num 0)
  let mmsLimit ← c.get "mms_limit" (.num 0)
  let _ ← smsLimit.gtZero
  let _ ← mmsLimit.gtZero
  name.formatAligned
  ctype.formatAligned

/-- The table of `list_carriers`: `for c in carriers`, a row each. -/
def renderCarriers (carriers : JVal) : Except Exc Unit := do
  (← carriers.iter).forM renderCarrier

/-- `carrier_types`. -/
def carrierTypes : List (String × String) :=
  [("1", "telnyx"), ("2", "twilio"), ("3", "bandwidth"), ("4", "plivo")]

theorem carrierType_mem (choice : String) :
    (carrierTypes.lookup choice).getD "telnyx" ∈ ["telnyx", "twilio", "bandwidth", "plivo"] := by
  simp only [carrierTypes, List.lookup_cons, List.lookup_nil]
  repeat' split
  all_goals simp

variable {σ : Type}

/-- `list_carriers()`: the carriers, `[]` when there are none, `none` on a network fault or a
status other than 200. -/
def listCarriers (gw : Gateway σ) : Cli σ (Option JVal) := do
  match ← getJson gw "/carriers" with
  | .networkError _ => return none
  | .response resp =>
    if resp.status != 200 then return none
    else
      let carriers ← liftExcept resp.decode
      if !carriers.truthy then return some (.arr [])
      else
        liftExcept (renderCarriers carriers)
        return some carriers

/-- `create_carrier_interactive()`: the new carrier's name, `none` when it was not created. The
three credential branches differ only in their prompts and in echoing the secret, which the
model does not see. -/
def createCarrierInteractive (gw : Gateway σ) : Cli σ (Option String) := do
  let name := Py.strip (← input)
  if name.isEmpty then return none
  else
    let typeChoice := Py.strip (← input)
    let carrierType := (carrierTypes.lookup typeChoice).getD "telnyx"
    let username := Py.strip (← input)
    let password := Py.strip (← input)
    let smsLimit := Py.intOr (Py.strip (← input)) 600000
    let mmsLimit := Py.intOr (Py.strip (← input)) 1048576
    match ← postJson gw "/carriers"
        (carrierPayload name carrierType username password smsLimit mmsLimit) with
    | .networkError _ => return none
    | .response resp => return if is2xx resp.status then some name else none

/-- `reload_carriers()`. -/
def reloadCarriers (gw : Gateway σ) : Cli σ Unit := do
  let _ ← postJson gw "/carriers/reload" []
  return ()

/-! ## What the operations send -/

section Frame

variable {gw : Gateway σ} (F : ScriptFrame gw)

theorem listCarriers_keeps : Cli.Keeps F.toProgress (listCarriers gw) := by
  refine Cli.keeps_bind (F.keepsSend _ _ _ .listCarriers) fun o => ?_
  cases o with
  | networkError => exact Cli.keeps_pure _
  | response resp =>
    exact Cli.keeps_ite (fun _ => Cli.keeps_pure _) fun _ =>
      Cli.keeps_bind (Cli.keeps_liftExcept _) fun _ =>
        Cli.keeps_ite (fun _ => Cli.keeps_pure _) fun _ =>
          Cli.keeps_bind (Cli.keeps_liftExcept _) fun _ => Cli.keeps_pure _

theorem createCarrierInteractive_keeps : Cli.Keeps F.toProgress (createCarrierInteractive gw) := by
  refine Cli.keeps_bind F.keepsInput fun name => ?_
  refine Cli.keeps_ite (fun _ => Cli.keeps_pure _) fun hname => ?_
  refine Cli.keeps_bind F.keepsInput fun choice => Cli.keeps_bind F.keepsInput fun _ =>
    Cli.keeps_bind F.keepsInput fun _ => Cli.keeps_bind F.keepsInput fun _ =>
      Cli.keeps_bind F.keepsInput fun _ => Cli.keeps_bind (F.keepsSend _ _ _ ?_) fun o => ?_
  · refine .createCarrier (fun h => hname ?_) (carrierType_mem (Py.strip choice))
    rw [h]
    rfl
  · cases o <;> exact Cli.keeps_pure _

end Frame

end MsggwManager
