import MsggwManager.Carriers
import MsggwManager.Clients.Manage
import MsggwManager.Numbers.Listing

/-!
# The menu, and a whole session

`menu()` loops: it reads a choice, strips and lowers it, and runs one operation (`menuAction`),
which also says how the loop goes on: with the session's one piece of state, `last_client`, or not
at all after `0`. Options 4 and 6 to 9 take an identifier, or `last_client` when the prompt is left
blank (`identifierOr`); option 5 and the quick flow `q` set `last_client` to the created client's
id, and option 9 to the identifier it added numbers to. `main()` runs the menu and catches Ctrl+C.

The loop is `while True`. The model gives it one more round than there are keys left; each round
reads a key, so the rounds never run out (`menuLoop_exits`). The inner loop of option 9, which
reads lines until Ctrl+D or the end of input, is bounded the same way (`readLines_fuel`).

Every operation keeps every script frame, so a whole session does (`main_keeps`).
-/

namespace MsggwManager

variable {σ : Type}

/-! ## The pieces of the menu -/

/-- `reload_all()`: the clients' reload, then the carriers', whatever the first one's outcome. -/
def reloadAll (gw : Gateway σ) : Cli σ Unit := do
  let _ ← postJson gw "/clients/reload" []
  let _ ← postJson gw "/carriers/reload" []
  return ()

/-- `input(prompt).strip() or last_client`, as `if identifier:` sees it: `none` when falsy. -/
def identifierOr (last : Option String) : Cli σ (Option String) := do
  let s := Py.strip (← input)
  return (if s.isEmpty then last else some s).filter (!·.isEmpty)

/-- Options 4, 6, 7 and 8: `op(identifier)` when the identifier is truthy. -/
def withIdentifier (last : Option String) (op : String → Cli σ Unit) : Cli σ Unit := do
  match ← identifierOr last with
  | some identifier => op identifier
  | none => return ()

/-- `input(prompt).strip() or "telnyx"`. -/
def carrierOrDefault : Cli σ String := do
  let s := Py.strip (← input)
  return if s.isEmpty then "telnyx" else s

/-- `[c.get("name", "") for c in (carriers or [])]`. -/
def carrierNames (carriers : Option JVal) : Except Exc (List JVal) := do
  (← ((carriers.getD .null).or (.arr [])).iter).mapM fun c => c.get "name" (.str "")

/-- `while True: lines.append(input())` until `EOFError`, for at most `fuel` lines. -/
def readLines (lines : List String) : Nat → Cli σ (List String)
  | 0 => pure lines
  | fuel + 1 => fun w =>
    match input w with
    | .ok line w' => readLines (lines ++ [line]) fuel w'
    | .error .eofError w' => .ok lines w'
    | .error e w' => .error e w'

/-- The lines typed at option 9, read with one more round than there are keys left. -/
def readAllLines : Cli σ (List String) := fun w => readLines [] (w.keys.length + 1) w

/-- Option 9: an identifier, the carrier table, a carrier, and lines until Ctrl+D; the batch is
added and its identifier becomes `last_client`. -/
def addNumbersOption (gw : Gateway σ) (last : Option String) : Cli σ (Option String) := do
  match ← identifierOr last with
  | none => return last
  | some identifier =>
    let carriers ← listCarriers gw
    let _ ← liftExcept (carrierNames carriers)
    let carrier ← carrierOrDefault
    let lines ← readAllLines
    let nums := (parseNumbersCsv (Py.join "," lines)).1
    if nums.isEmpty then return last
    else
      let _ ← addNumbersToClient gw identifier nums carrier true
      return some identifier

/-- Option `q`: create a client, show the carriers, add one line of numbers to the new client,
and reload all unless the answer is `n`. -/
def quickFlow (gw : Gateway σ) (last : Option String) : Cli σ (Option String) := do
  match ← createClientInteractive gw with
  | none => return last
  | some username =>
    if username.isEmpty then return last
    else
      let _ ← listCarriers gw
      let carrier ← carrierOrDefault
      let raw := Py.strip (← input)
      let nums := (parseNumbersCsv raw).1
      (if nums.isEmpty then pure ()
        else addNumbersToClient gw username nums carrier true >>= fun _ => pure ())
      let answer := Py.lower (Py.strip (← input))
      (if answer != "n" then reloadAll gw else pure ())
      return some username

/-! ## The loop -/

/-- One round of `menu()` once the choice is read: `none` after `0` (`break`), otherwise the
`last_client` the loop goes on with. -/
def menuAction (gw : Gateway σ) (last : Option String) : String → Cli σ (Option (Option String))
  | "1" => do let _ ← listCarriers gw; return some last
  | "2" => do let _ ← createCarrierInteractive gw; return some last
  | "3" => do let _ ← listClients gw; return some last
  | "4" => do withIdentifier last (showClientDetails gw); return some last
  | "5" => do
    let created ← createClientInteractive gw
    return some ((created.filter (!·.isEmpty)).or last)
  | "6" => do withIdentifier last (updateClientSettings gw); return some last
  | "7" => do withIdentifier last (changeClientPassword gw); return some last
  | "8" => do withIdentifier last (listClientNumbers gw); return some last
  | "9" => do return some (← addNumbersOption gw last)
  | "r" => do reloadAll gw; return some last
  | "q" => do return some (← quickFlow gw last)
  | "0" => return none
  | _ => return some last

/-- At most `fuel` rounds of the `while True` loop of `menu()` from `last_client`: whether the
loop ended at `0`, `false` only when the rounds ran out. -/
def menuLoop (gw : Gateway σ) : Nat → Option String → Cli σ Bool
  | 0, _ => pure false
  | fuel + 1, last => do
    let choice := Py.lower (Py.strip (← input))
    match ← menuAction gw last choice with
    | none => return true
    | some last' => menuLoop gw fuel last'

/-- `menu()`: the loop from no last client, with one more round than there are keys left. -/
def menu (gw : Gateway σ) : Cli σ Unit := fun w =>
  match menuLoop gw (w.keys.length + 1) none w with
  | .ok _ w' => .ok () w'
  | .error e w' => .error e w'

/-- How `main()` returns: `Bye!` after option 0, or `Interrupted. Bye!` after Ctrl+C. -/
inductive SessionEnd
  | bye
  | interrupted
  deriving Repr, DecidableEq

/-- `main()`: the menu, with `KeyboardInterrupt` caught. -/
def main (gw : Gateway σ) : Cli σ SessionEnd := fun w =>
  match menu gw w with
  | .ok () w' => .ok .bye w'
  | .error .keyboardInterrupt w' => .ok .interrupted w'
  | .error e w' => .error e w'

/-! ## The rounds never run out -/

theorem input_ok_keys {w w' : World σ} {s : String} (h : input w = .ok s w') :
    w.keys = .line s :: w'.keys := by
  unfold input at h
  split at h <;> cases h
  simp_all

theorem input_line {w : World σ} {s : String} {rest : List Key} (h : w.keys = .line s :: rest) :
    input w = .ok s { w with keys := rest } := by
  simp [input, h]

theorem readLines_succ (lines : List String) (fuel : Nat) (w : World σ) :
    readLines lines (fuel + 1) w =
      match input w with
      | .ok line w' => readLines (lines ++ [line]) fuel w'
      | .error .eofError w' => .ok lines w'
      | .error e w' => .error e w' := rfl

/-- **Option 9 reads until Ctrl+D or the end of input**: with more rounds than keys, one more
round changes nothing. -/
theorem readLines_fuel {lines : List String} {fuel : Nat} {w : World σ}
    (h : w.keys.length < fuel) : readLines lines (fuel + 1) w = readLines lines fuel w := by
  induction fuel generalizing lines w with
  | zero => omega
  | succ fuel ih =>
    rw [readLines_succ, readLines_succ]
    cases hin : input w with
    | ok line w' =>
      have hkeys := input_ok_keys hin
      rw [hkeys, List.length_cons] at h
      exact ih (by omega)
    | error e w' => cases e <;> rfl

theorem menuLoop_succ (gw : Gateway σ) (fuel : Nat) (last : Option String) (w : World σ) :
    menuLoop gw (fuel + 1) last w =
      match input w with
      | .ok s w₁ =>
        match menuAction gw last (Py.lower (Py.strip s)) w₁ with
        | .ok none w₂ => .ok true w₂
        | .ok (some last') w₂ => menuLoop gw fuel last' w₂
        | .error e w₂ => .error e w₂
      | .error e w₁ => .error e w₁ := by
  simp only [menuLoop, Cli.bind_apply]
  cases input w with
  | ok s w₁ =>
    dsimp only
    cases menuAction gw last (Py.lower (Py.strip s)) w₁ with
    | ok r w₂ => cases r <;> rfl
    | error e w₂ => rfl
  | error e w₁ => rfl

/-! ## A session keeps every script frame -/

section Frame

variable {gw : Gateway σ} (F : ScriptFrame gw)

theorem reloadAll_keeps : Cli.Keeps F.toProgress (reloadAll gw) :=
  Cli.keeps_bind (F.keepsSend _ _ _ .reloadClients) fun _ =>
    Cli.keeps_bind (F.keepsSend _ _ _ .reloadCarriers) fun _ => Cli.keeps_pure _

theorem identifierOr_keeps (last : Option String) : Cli.Keeps F.toProgress (identifierOr last) :=
  Cli.keeps_bind F.keepsInput fun _ => Cli.keeps_pure _

theorem withIdentifier_keeps (last : Option String) {op : String → Cli σ Unit}
    (hop : ∀ s, Cli.Keeps F.toProgress (op s)) : Cli.Keeps F.toProgress (withIdentifier last op) :=
  Cli.keeps_bind (identifierOr_keeps F last) fun identifier => by
    cases identifier with
    | none => exact Cli.keeps_pure _
    | some s => exact hop s

theorem carrierOrDefault_keeps : Cli.Keeps F.toProgress (carrierOrDefault : Cli σ String) :=
  Cli.keeps_bind F.keepsInput fun _ => Cli.keeps_pure _

theorem readLines_keeps :
    ∀ (fuel : Nat) (lines : List String), Cli.Keeps F.toProgress (readLines lines fuel : Cli σ _)
  | 0, lines => Cli.keeps_pure lines
  | fuel + 1, lines => fun w => by
    have hin := F.keepsInput w
    rw [readLines_succ]
    cases h : input w with
    | ok line w' => rw [h] at hin; exact F.trans hin (readLines_keeps fuel _ w')
    | error e w' => rw [h] at hin; cases e <;> exact hin

theorem addNumbersOption_keeps (last : Option String) :
    Cli.Keeps F.toProgress (addNumbersOption gw last) := by
  refine Cli.keeps_bind (identifierOr_keeps F last) fun identifier => ?_
  cases identifier with
  | none => exact Cli.keeps_pure _
  | some identifier =>
    refine Cli.keeps_bind (listCarriers_keeps F) fun _ =>
      Cli.keeps_bind (Cli.keeps_liftExcept _) fun _ => Cli.keeps_bind (carrierOrDefault_keeps F)
        fun _ => Cli.keeps_bind (fun w => readLines_keeps F _ [] w) fun lines => ?_
    exact Cli.keeps_ite (fun _ => Cli.keeps_pure _) fun _ =>
      Cli.keeps_bind (addNumbersToClient_keeps F _ (fun _ hn => parseNumbersCsv_valid hn) _)
        fun _ => Cli.keeps_pure _

theorem quickFlow_keeps (last : Option String) : Cli.Keeps F.toProgress (quickFlow gw last) := by
  refine Cli.keeps_bind (createClientInteractive_keeps F) fun created => ?_
  cases created with
  | none => exact Cli.keeps_pure _
  | some username =>
    refine Cli.keeps_ite (fun _ => Cli.keeps_pure _) fun _ =>
      Cli.keeps_bind (listCarriers_keeps F) fun _ => Cli.keeps_bind (carrierOrDefault_keeps F)
        fun _ => Cli.keeps_bind F.keepsInput fun _ => Cli.keeps_bind ?_ fun _ =>
          Cli.keeps_bind F.keepsInput fun _ => Cli.keeps_bind
            (Cli.keeps_ite (fun _ => reloadAll_keeps F) fun _ => Cli.keeps_pure _)
            fun _ => Cli.keeps_pure _
    exact Cli.keeps_ite (fun _ => Cli.keeps_pure _) fun _ =>
      Cli.keeps_bind (addNumbersToClient_keeps F _ (fun _ hn => parseNumbersCsv_valid hn) _)
        fun _ => Cli.keeps_pure _

/-- **Every round of the menu keeps every script frame.** -/
theorem menuAction_keeps (last : Option String) (choice : String) :
    Cli.Keeps F.toProgress (menuAction gw last choice) := by
  unfold menuAction
  split
  · exact Cli.keeps_bind (listCarriers_keeps F) fun _ => Cli.keeps_pure _
  · exact Cli.keeps_bind (createCarrierInteractive_keeps F) fun _ => Cli.keeps_pure _
  · exact Cli.keeps_bind (listClients_keeps F) fun _ => Cli.keeps_pure _
  · exact Cli.keeps_bind (withIdentifier_keeps F last (showClientDetails_keeps F)) fun _ =>
      Cli.keeps_pure _
  · exact Cli.keeps_bind (createClientInteractive_keeps F) fun _ => Cli.keeps_pure _
  · exact Cli.keeps_bind (withIdentifier_keeps F last (updateClientSettings_keeps F)) fun _ =>
      Cli.keeps_pure _
  · exact Cli.keeps_bind (withIdentifier_keeps F last (changeClientPassword_keeps F)) fun _ =>
      Cli.keeps_pure _
  · exact Cli.keeps_bind (withIdentifier_keeps F last (listClientNumbers_keeps F)) fun _ =>
      Cli.keeps_pure _
  · exact Cli.keeps_bind (addNumbersOption_keeps F last) fun _ => Cli.keeps_pure _
  · exact Cli.keeps_bind (reloadAll_keeps F) fun _ => Cli.keeps_pure _
  · exact Cli.keeps_bind (quickFlow_keeps F last) fun _ => Cli.keeps_pure _
  · exact Cli.keeps_pure _
  · exact Cli.keeps_pure _

theorem menuLoop_keeps :
    ∀ (fuel : Nat) (last : Option String), Cli.Keeps F.toProgress (menuLoop gw fuel last)
  | 0, _ => Cli.keeps_pure _
  | fuel + 1, last => Cli.keeps_bind F.keepsInput fun _ =>
    Cli.keeps_bind (menuAction_keeps F _ _) fun r => by
      cases r with
      | none => exact Cli.keeps_pure _
      | some last' => exact menuLoop_keeps fuel last'

/-- **A whole session keeps every script frame.** -/
theorem main_keeps : Cli.Keeps F.toProgress (main gw) := fun w => by
  have h := menuLoop_keeps F (w.keys.length + 1) none w
  unfold main menu
  cases hrun : menuLoop gw (w.keys.length + 1) none w with
  | ok b w' => rw [hrun] at h; exact h
  | error e w' => rw [hrun] at h; cases e <;> exact h

end Frame

/-- **The menu's rounds never run out**: from a world with fewer keys than rounds, the loop ends at
`0` whenever it returns. -/
theorem menuLoop_exits {gw : Gateway σ} {fuel : Nat} {last : Option String} {w w' : World σ}
    {b : Bool} (h : w.keys.length < fuel) (hrun : menuLoop gw fuel last w = .ok b w') :
    b = true := by
  induction fuel generalizing last w with
  | zero => omega
  | succ fuel ih =>
    rw [menuLoop_succ] at hrun
    cases hin : input w with
    | error e w₁ => rw [hin] at hrun; cases hrun
    | ok s w₁ =>
      rw [hin] at hrun
      dsimp only at hrun
      have hkeys := input_ok_keys hin
      cases hact : menuAction gw last (Py.lower (Py.strip s)) w₁ with
      | error e w₂ => rw [hact] at hrun; cases hrun
      | ok r w₂ =>
        rw [hact] at hrun
        cases r with
        | none => cases hrun; rfl
        | some last' =>
          have hsuffix : w₂.keys <:+ w₁.keys := by
            have hkeep := menuAction_keeps (ScriptFrame.keys gw) last (Py.lower (Py.strip s)) w₁
            rwa [hact] at hkeep
          have hlen := hsuffix.length_le
          rw [hkeys, List.length_cons] at h
          exact ih (by omega) hrun

end MsggwManager
