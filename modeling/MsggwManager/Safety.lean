import MsggwManager.Session
import Mathlib.Data.String.Basic

/-!
# What a session sends, and how it can end

`main_keeps` at the endpoints frame says that, whatever the operator types and the gateway answers,
every request a session sends is an `Endpoint` (`main_sends_endpoints`). So every number a session
posts has eleven `\d` digits (`main_posts_valid_numbers`). `\d` matches the decimal digits of every
script, and the round of option 9 posts them as typed (`menuAction_posts_fullwidth_number`). At
the authenticated frame it says that every request goes to `base_url()` with the API key
(`main_sends_authenticated`). Option `r` posts both reloads, whatever the first one's answer
(`reloadAll_sends_both`).

The lookup behind options 4 and 6 to 9 raises `ValueError` on an identifier that `isdigit` accepts
and `int` does not read, and nothing catches it: the session ends with the exception
(`main_raises_on_digit_identifier`).
-/

namespace MsggwManager

/-! ## A sample gateway -/

/-- A gateway with one carrier and one client (id 2, username `b`, no numbers), which answers
every other request with 201. -/
def sampleGateway : Gateway Unit where
  respond s req :=
    if req.method = .get ∧ req.path = "/carriers" then
      (.response ⟨200, "", some (.arr [.obj [("name", .str "telnyx"), ("type", .str "telnyx")]])⟩,
        s)
    else if req.method = .get ∧ req.path = "/clients" then
      (.response ⟨200, "", some (.arr [.obj [("id", .num 2), ("username", .str "b")]])⟩, s)
    else (.response ⟨201, "", some (.obj [])⟩, s)

/-- The client `sampleGateway` lists. -/
def sampleClient : ClientRecord :=
  ⟨[("id", .num 2), ("username", .str "b")], 2, "b", rfl, rfl, lt_pow_maxStrDigits (by decide)⟩

theorem sampleGateway_lists : ListsClients sampleGateway () [sampleClient] := by
  intro req hm hp
  have hcarriers : ¬(req.method = .get ∧ req.path = "/carriers") := fun h => by
    rw [hp] at h
    exact absurd h.2 (by decide)
  exact ⟨_, by simp only [sampleGateway, if_neg hcarriers, if_pos (And.intro hm hp)]; rfl, rfl, rfl⟩

variable {σ : Type}

/-! ## The requests of a session -/

/-- **Every request of every session is one the script is meant to send.** -/
theorem main_sends_endpoints (gw : Gateway σ) (w : World σ) :
    ∃ new, (Cli.world (main gw w)).log = w.log ++ new ∧ ∀ e ∈ new, e.1.IsEndpoint :=
  main_keeps (ScriptFrame.endpoints gw) w

/-- **Every number a session posts has eleven `\d` digits.** -/
theorem main_posts_valid_numbers (gw : Gateway σ) (w : World σ) :
    ∃ new, (Cli.world (main gw w)).log = w.log ++ new ∧
      ∀ e ∈ new, ∀ clientId, e.1.method = .post → e.1.path = numbersPath clientId →
        ∃ num carrier, e.1.payload = some (numberPayload num carrier) ∧ ValidNumber num := by
  obtain ⟨new, hlog, hend⟩ := main_keeps (ScriptFrame.endpoints gw) w
  exact ⟨new, hlog, fun e he clientId hm hp => Endpoint.numbersPath_valid (hend e he) hm hp⟩

/-- **Every request of every session goes to `base_url()` with the API key**: user `apikey`, a key
that is not empty, and `MSGGW_API_KEY` itself when it is set. -/
theorem main_sends_authenticated (gw : Gateway σ) (w : World σ) :
    ∃ new, (Cli.world (main gw w)).log = w.log ++ new ∧ ∀ e ∈ new, e.1.Authenticated w.env :=
  (main_keeps (ScriptFrame.authenticated gw) w).2

/-- The round of `menu()` that reads `9`: fullwidth digits typed at option 9 are posted as they
are. -/
theorem menuAction_posts_fullwidth_number :
    ∃ w', menuAction sampleGateway none "9" ⟨⟨none, some "key"⟩, [.line "2", .line "",
        .line "２０２５５５０１００", .eof], [], (), []⟩ = .ok (some (some "2")) w' ∧
      (∃ req o, w'.log.getLast? = some (req, o) ∧ req.method = .post ∧
        req.path = numbersPath (.num 2) ∧
        req.payload = some (numberPayload "1２０２５５５０１００" "telnyx")) ∧
      "1２０２５５５０１００".toList.all isAsciiDigit = false :=
  ⟨_, rfl, ⟨_, _, rfl, rfl, rfl, rfl⟩, by decide⟩

/-! ## Sessions that end with an exception -/

/-- **A digit identifier that `int` cannot read ends the session with `ValueError`**: option 4,
then such an identifier, against a gateway that lists some clients, with a configured latin-1
key. -/
theorem main_raises_on_digit_identifier (gw : Gateway σ) (w : World σ) {cs : List ClientRecord}
    (hlist : ListsClients gw w.server cs) (hcs : cs ≠ []) (hconf : w.env.keyConfigured)
    (hkey : Py.encodesLatin1 w.env.key) {s : String} (hd : Py.isdigit (Py.strip s))
    (hn : Py.int (Py.strip s) = none)
    {rest : List Key} (hkeys : w.keys = .line "4" :: .line s :: rest) :
    ∃ w', main gw w = .error .valueError w' := by
  have hblank : (Py.strip s).isEmpty = false := by
    rw [Bool.eq_false_iff]
    intro h
    rw [(String.isEmpty_iff _).mp h] at hd
    exact absurd hd (by decide)
  obtain ⟨w', hlookup⟩ := getClientByIdentifier_raises gw { w with keys := rest } hlist hcs hconf
    hkey hd hn
  have h4 : Py.lower (Py.strip "4") = "4" := by decide
  have hround : menuAction gw none "4" { w with keys := .line s :: rest } =
      .error .valueError w' := by
    simp [menuAction, withIdentifier, identifierOr, input, Option.filter, hblank,
      showClientDetails, hlookup]
  have hfuel : w.keys.length + 1 = rest.length + 2 + 1 := by simp [hkeys]
  refine ⟨w', ?_⟩
  simp only [main, menu, hfuel, menuLoop_succ, input, hkeys, h4, hround]

theorem main_raises_on_superscript_two :
    ListsClients sampleGateway () [sampleClient] ∧ Py.isdigit (Py.strip "²") ∧
      Py.int (Py.strip "²") = none ∧
      ∃ w', main sampleGateway ⟨⟨none, some "key"⟩, [.line "4", .line "²"], [], (), []⟩ =
        .error .valueError w' :=
  ⟨sampleGateway_lists, by decide, by decide,
    main_raises_on_digit_identifier sampleGateway ⟨⟨none, some "key"⟩, [.line "4", .line "²"], [],
      (), []⟩ sampleGateway_lists (List.cons_ne_nil _ _) rfl rfl (by decide) (by decide) rfl⟩

end MsggwManager
