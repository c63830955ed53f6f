import MsggwManager.Numbers.Add

/-!
# Listing a client's numbers

`get_client_numbers(username)` returns the numbers of the client the lookup finds, and
`list_client_numbers(username)` prints them as a table. Both look the client up with `get_client`,
which is `get_client_by_identifier`: an all-digit argument finds a client by id first, as at the
other prompts. The table's rows format `number` and `carrier` aligned, so a number entry that is
not a dict, or whose fields are `None`, lists or dicts, raises (`renderNumberRow`).
-/

namespace MsggwManager

/-- A row of the numbers table: `tag` and `group` fall back to `-` when falsy. -/
def renderNumberRow (n : JVal) : Except Exc Unit := do
  let num ← n.get "number" (.str "")
  let carrier ← n.get "carrier" (.str "")
  let tag := (← n.get "tag" (.str "")).or (.str "-")
  let group := (← n.get "group" (.str "")).or (.str "-")
  let limit ← n.get "sms_limit" (.num 0)
  let _ ← limit.gtZero
  num.formatAligned
  carrier.formatAligned
  tag.formatAligned
  group.formatAligned

/-- The table of `list_client_numbers`. -/
def renderNumberRows (numbers : JVal) : Except Exc Unit := do
  (← numbers.iter).forM renderNumberRow

variable {σ : Type}

/-- `get_client_numbers(username)`. -/
def getClientNumbers (gw : Gateway σ) (username : String) : Cli σ (List JVal) := do
  match ← getClient gw username with
  | none => return []
  | some client =>
    if !client.truthy then return []
    else liftExcept (existingNumbers client)

/-- `list_client_numbers(username)`. -/
def listClientNumbers (gw : Gateway σ) (username : String) : Cli σ Unit := do
  match ← getClient gw username with
  | none => return ()
  | some client =>
    if !client.truthy then return ()
    else
      let numbers ← liftExcept (client.get "numbers" (.arr []))
      if !numbers.truthy then return ()
      else liftExcept (renderNumberRows numbers)

section Frame

variable {gw : Gateway σ} (F : ScriptFrame gw)

theorem listClientNumbers_keeps (username : String) :
    Cli.Keeps F.toProgress (listClientNumbers gw username) := by
  refine Cli.keeps_bind (getClientByIdentifier_keeps F username) fun client => ?_
  cases client with
  | none => exact Cli.keeps_pure _
  | some client =>
    exact Cli.keeps_ite (fun _ => Cli.keeps_pure _) fun _ =>
      Cli.keeps_bind (Cli.keeps_liftExcept _) fun _ =>
        Cli.keeps_ite (fun _ => Cli.keeps_pure _) fun _ => Cli.keeps_liftExcept _

end Frame

end MsggwManager
