import MsggwManager.Safety

/-!
# What the settings and password forms send

Options 6 and 7 look the client up first and then read their answers. With the API key set, so that
the lookup reads no key and the answers laid out in the operator's keys are the form's, and against
a gateway that lists the clients, these results say which requests each form sends:

* option 6, `update_client_settings`: after the lookup, only a `PUT` to the settings of the client
  the scans name, of a body that holds each field as its answer sets it, and none when no answer
  sets one (`updateClientSettings_puts_answers`);
* option 7, `change_client_password`: after the lookup, a `PATCH` to the password of the client the
  scans name, of the typed password or a generated one, and only after the answer `y`
  (`changeClientPassword_confirmed`).

Both go through `sends_lookup_bind`: the lookup sends its `GET /clients` and hands on the client
`expectedClient` names, with the operator's keys as they were.
-/

namespace MsggwManager

variable {σ : Type}

theorem sends_lookup_bind {α : Type} {gw : Gateway σ} {P : Request → Prop}
    (hget : ∀ req : Request, req.method = .get → req.path = "/clients" → P req)
    {identifier : String} {f : Option JVal → Cli σ α} {w : World σ} {cs : List ClientRecord}
    (hlist : ListsClients gw w.server cs) (hconf : w.env.keyConfigured)
    (hf : ∀ w₁ : World σ, w₁.keys = w.keys → (Progress.sends P).rel w₁
      (Cli.world (f ((expectedClient cs identifier).map ClientRecord.toJVal) w₁))) :
    (Progress.sends P).rel w (Cli.world ((getClientByIdentifier gw identifier >>= f) w)) := by
  have hlook : (Progress.sends P).rel w (Cli.world (getClientByIdentifier gw identifier w)) :=
    getClientByIdentifier_keeps_of (send_keeps_sends fun _ _ => hget _ rfl rfl) identifier w
  obtain ⟨-, hkeys⟩ := getClientByIdentifier_keeps_of (send_quiet gw _ _ _) identifier w
  rw [Cli.bind_apply]
  cases hl : getClientByIdentifier gw identifier w with
  | error e w₁ => rw [hl] at hlook; exact hlook
  | ok v w₁ =>
    rw [hl] at hlook hkeys
    rw [getClientByIdentifier_ok hlist hl]
    exact (Progress.sends P).trans hlook (hf w₁ (hkeys hconf))

/-- **`change_client_password` patches the client found, and only after the answer `y`**: with
`API_KEY` set, so that the prompts read are the password and the confirmation, every request it
sends is the lookup's `GET /clients`, or, when the confirmation stripped and lowered is `y`, a
`PATCH` to the password of the client the scans name, whose body holds the typed password, or a
generated one when the typed password is blank. -/
theorem changeClientPassword_confirmed (gw : Gateway σ) {w : World σ} {cs : List ClientRecord}
    (hlist : ListsClients gw w.server cs) (identifier : String) (hconf : w.env.keyConfigured)
    {pw c : String} {rest : List Key} (hkeys : w.keys = .line pw :: .line c :: rest) :
    ∃ new, (Cli.world (changeClientPassword gw identifier w)).log = w.log ++ new ∧
      ∀ e ∈ new, (e.1.method = .get ∧ e.1.path = "/clients") ∨
        (Py.lower (Py.strip c) = "y" ∧ e.1.method = .patch ∧
          ∃ cl, expectedClient cs identifier = some cl ∧ e.1.path = passwordPath (.num cl.id) ∧
            ∃ np, np ≠ "" ∧ ((Py.strip pw).isEmpty = false → np = Py.strip pw) ∧
              e.1.payload = some (passwordPayload np)) := by
  unfold changeClientPassword
  refine sends_lookup_bind (P := fun req => (req.method = .get ∧ req.path = "/clients") ∨
      (Py.lower (Py.strip c) = "y" ∧ req.method = .patch ∧
        ∃ cl, expectedClient cs identifier = some cl ∧ req.path = passwordPath (.num cl.id) ∧
          ∃ np, np ≠ "" ∧ ((Py.strip pw).isEmpty = false → np = Py.strip pw) ∧
            req.payload = some (passwordPayload np)))
    (fun _ hm hp => .inl ⟨hm, hp⟩) hlist hconf fun w₁ hk₁ => ?_
  rw [hkeys] at hk₁
  cases hcl : expectedClient cs identifier with
  | none => exact (Progress.sends _).refl w₁
  | some cl =>
    simp only [Option.map_some', ClientRecord.truthy_toJVal, Bool.not_true, Bool.false_eq_true,
      if_false, Cli.bind_apply, ClientRecord.get_id, liftExcept, Cli.pure_apply, input_line hk₁]
    obtain ⟨hk₂, hlog₂⟩ :=
      passwordOrGenerated_world (Py.strip pw) { w₁ with keys := .line c :: rest }
    cases hpw : passwordOrGenerated (Py.strip pw) { w₁ with keys := .line c :: rest } with
    | error e w₂ => rw [hpw] at hlog₂; exact ⟨[], by simpa using hlog₂, nofun⟩
    | ok np w₂ =>
      rw [hpw] at hk₂ hlog₂
      simp only [Cli.world_ok] at hk₂ hlog₂
      simp only [input_line hk₂]
      have htyped : (Py.strip pw).isEmpty = false → np = Py.strip pw := fun h => by
        simp only [passwordOrGenerated, h, Bool.false_eq_true, if_false] at hpw
        exact (EStateM.Result.ok.inj hpw).1.symm
      by_cases hy : Py.lower (Py.strip c) = "y"
      · rw [if_neg (by simp [hy])]
        obtain ⟨new, hlog, hpatch⟩ := Cli.keeps_bind (send_keeps_sends
            (P := fun req => req.method = .patch ∧ req.path = passwordPath (.num cl.id) ∧
              req.payload = some (passwordPayload np)) fun _ _ => ⟨rfl, rfl, rfl⟩)
          (fun _ => Cli.keeps_pure ()) { w₂ with keys := rest }
        refine ⟨new, hlog.trans (by rw [hlog₂]), fun e he => .inr ?_⟩
        obtain ⟨hm, hp, hbody⟩ := hpatch e he
        exact ⟨hy, hm, cl, rfl, hp, np, passwordOrGenerated_ne hpw, htyped, hbody⟩
      · rw [if_pos (by simpa using hy)]
        exact ⟨[], by simpa using hlog₂, nofun⟩

theorem changeClientPassword_confirmed_sample :
    ListsClients sampleGateway () [sampleClient] ∧ (⟨none, some "key"⟩ : Env).keyConfigured ∧
      ∃ new, (Cli.world (changeClientPassword sampleGateway "b"
          ⟨⟨none, some "key"⟩, [.line " s3cret ", .line " Y "], [], (), []⟩)).log = [] ++ new ∧
        ∀ e ∈ new, (e.1.method = .get ∧ e.1.path = "/clients") ∨
          (Py.lower (Py.strip " Y ") = "y" ∧ e.1.method = .patch ∧
            ∃ cl, expectedClient [sampleClient] "b" = some cl ∧
              e.1.path = passwordPath (.num cl.id) ∧
              ∃ np, np ≠ "" ∧ ((Py.strip " s3cret ").isEmpty = false → np = Py.strip " s3cret ") ∧
                e.1.payload = some (passwordPayload np)) :=
  ⟨sampleGateway_lists, rfl,
    changeClientPassword_confirmed sampleGateway sampleGateway_lists "b" (by rfl) (by rfl)⟩

/-- **`update_client_settings` puts each field as its answer sets it**: with `API_KEY` set, so that
the four prompts read the format, the webhook, the retries and the timeout, every request it sends
is the lookup's `GET /clients`, or a `PUT` to the settings of the client the scans name, sent only
when its body is not empty. The body has its fields in the order of `settingsKeys`, `api_format`
exactly for a choice of `formats`, `default_webhook` exactly for a non-blank webhook, and each of
`webhook_retries` and `webhook_timeout_secs` exactly where `int` reads its stripped answer. -/
theorem updateClientSettings_puts_answers (gw : Gateway σ) {w : World σ} {cs : List ClientRecord}
    (hlist : ListsClients gw w.server cs) (identifier : String) (hconf : w.env.keyConfigured)
    {fmt webhook retries timeout : String} {rest : List Key}
    (hkeys : w.keys = .line fmt :: .line webhook :: .line retries :: .line timeout :: rest) :
    ∃ new, (Cli.world (updateClientSettings gw identifier w)).log = w.log ++ new ∧
      ∀ e ∈ new, (e.1.method = .get ∧ e.1.path = "/clients") ∨
        (e.1.method = .put ∧ ∃ cl, expectedClient cs identifier = some cl ∧
          e.1.path = settingsPath (.num cl.id) ∧ ∃ body, e.1.payload = some body ∧ body ≠ [] ∧
          (body.map Prod.fst).Sublist settingsKeys ∧
          body.lookup "api_format" = (apiFormats.lookup (Py.strip fmt)).map .str ∧
          body.lookup "default_webhook" =
            (if (Py.strip webhook).isEmpty then none else some (.str (Py.strip webhook))) ∧
          body.lookup "webhook_retries" = (Py.int (Py.strip retries)).map .num ∧
          body.lookup "webhook_timeout_secs" = (Py.int (Py.strip timeout)).map .num) := by
  unfold updateClientSettings
  refine sends_lookup_bind (P := fun req => (req.method = .get ∧ req.path = "/clients") ∨
      (req.method = .put ∧ ∃ cl, expectedClient cs identifier = some cl ∧
        req.path = settingsPath (.num cl.id) ∧ ∃ body, req.payload = some body ∧ body ≠ [] ∧
        (body.map Prod.fst).Sublist settingsKeys ∧
        body.lookup "api_format" = (apiFormats.lookup (Py.strip fmt)).map .str ∧
        body.lookup "default_webhook" =
          (if (Py.strip webhook).isEmpty then none else some (.str (Py.strip webhook))) ∧
        body.lookup "webhook_retries" = (Py.int (Py.strip retries)).map .num ∧
        body.lookup "webhook_timeout_secs" = (Py.int (Py.strip timeout)).map .num))
    (fun _ hm hp => .inl ⟨hm, hp⟩) hlist hconf fun w₁ hk₁ => ?_
  rw [hkeys] at hk₁
  cases hcl : expectedClient cs identifier with
  | none => exact (Progress.sends _).refl w₁
  | some cl =>
    simp only [Option.map_some', ClientRecord.truthy_toJVal, Bool.not_true, Bool.false_eq_true,
      if_false, Cli.bind_apply, ClientRecord.get_id, liftExcept, Cli.pure_apply, input, hk₁]
    by_cases hne : (settingsOf (Py.strip fmt) (Py.strip webhook) (Py.strip retries)
        (Py.strip timeout)).isEmpty = true
    · rw [if_pos hne]
      exact ⟨[], (List.append_nil _).symm, nofun⟩
    · rw [if_neg hne]
      obtain ⟨new, hlog, hput⟩ := Cli.keeps_bind (send_keeps_sends
          (P := fun req => req.method = .put ∧ req.path = settingsPath (.num cl.id) ∧
            req.payload = some (settingsOf (Py.strip fmt) (Py.strip webhook) (Py.strip retries)
              (Py.strip timeout))) fun _ _ => ⟨rfl, rfl, rfl⟩)
        (fun _ => Cli.keeps_pure ()) _
      refine ⟨new, hlog, fun e he => .inr ?_⟩
      obtain ⟨hm, hp, hbody⟩ := hput e he
      exact ⟨hm, cl, rfl, hp, _, hbody, fun h => hne (by rw [h]; rfl),
        settingsOf_keys _ _ _ _, settingsOf_lookup _ _ _ _⟩

theorem updateClientSettings_puts_answers_sample :
    ListsClients sampleGateway () [sampleClient] ∧ (⟨none, some "key"⟩ : Env).keyConfigured ∧
      ∃ new, (Cli.world (updateClientSettings sampleGateway "b" ⟨⟨none, some "key"⟩,
          [.line "2", .line "", .line " 3 ", .line "x"], [], (), []⟩)).log = [] ++ new ∧
        ∀ e ∈ new, (e.1.method = .get ∧ e.1.path = "/clients") ∨
          (e.1.method = .put ∧ ∃ cl, expectedClient [sampleClient] "b" = some cl ∧
            e.1.path = settingsPath (.num cl.id) ∧ ∃ body, e.1.payload = some body ∧ body ≠ [] ∧
            (body.map Prod.fst).Sublist settingsKeys ∧
            body.lookup "api_format" = (apiFormats.lookup (Py.strip "2")).map .str ∧
            body.lookup "default_webhook" =
              (if (Py.strip "").isEmpty then none else some (.str (Py.strip ""))) ∧
            body.lookup "webhook_retries" = (Py.int (Py.strip " 3 ")).map .num ∧
            body.lookup "webhook_timeout_secs" = (Py.int (Py.strip "x")).map .num) :=
  ⟨sampleGateway_lists, rfl,
    updateClientSettings_puts_answers sampleGateway sampleGateway_lists "b" (by rfl) (by rfl)⟩

end MsggwManager
