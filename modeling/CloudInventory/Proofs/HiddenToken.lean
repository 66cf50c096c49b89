import CloudInventory.Proofs.FindingsApart
import CloudInventory.Proofs.Outcomes
import CloudInventory.Provider.Settings

/-!
The token is not shown. Two configurations that differ only in the text of the token are validated
with the same diagnostics and fail with the same error, and the settings made of them are listed the
same and lead to the same address and to a connection each.
-/
namespace CloudInventory.Settings
open Dictionary (AgreeExcept)

variable {config other : Config} {environment : String → Option String} {t u : String}

/-! ### Validation -/

/-- Of a text that is given as a token, nothing is wrong and so nothing is told. -/
theorem problems_token {a : Attribute} (ha : ("token", a) ∈ schema.attributes) (t : String) :
    a.problems "token" (some (.string t)) = [] := by
  have hpair := Dictionary.mem_of_mem_ofPairs ha
  rw [List.mem_cons] at hpair
  obtain hfirst | hrest := hpair
  · cases hfirst
    rfl
  · simp at hrest

theorem validate_of_agreeExcept (hkeys : config.keys.Nodup) (hothers : other.keys.Nodup)
    (hagree : AgreeExcept "token" config other) (ht : config.get? "token" = some (.string t))
    (hu : other.get? "token" = some (.string u)) :
    schema.validate config = schema.validate other := by
  have hgiven : ∀ key, (config.get? key).isSome = (other.get? key).isSome := by
    intro key
    by_cases hkey : key = "token"
    · rw [hkey, ht, hu, Option.isSome_some, Option.isSome_some]
    · rw [hagree key hkey]
  have hall : (schema.findings config).filter (fun _ => true) =
      (schema.findings other).filter (fun _ => true) := by
    refine filter_contentFindings_congr hagree ?_ (fun a ha => ?_) (fun block hblock => ?_)
    · rw [unknownFindings_of_given hkeys hothers hgiven]
    · rw [ht, hu, problems_token ha, problems_token ha]
    · cases hblock
  rw [List.filter_true, List.filter_true] at hall
  rw [Schema.validate, Schema.validate, hall]

/-! ### Making settings -/

theorem givenText_congr {name : String} (h : config.get? name = other.get? name) :
    givenText config name = givenText other name := by
  rw [givenText, givenText, h]

theorem givenWhole_congr {name : String} (h : config.get? name = other.get? name) :
    givenWhole config name = givenWhole other name := by
  rw [givenWhole, givenWhole, h]

theorem lookup_congr {name : String} (h : config.get? name = other.get? name)
    (variableName : String) :
    lookup config environment name variableName = lookup other environment name variableName := by
  rw [lookup, lookup, givenText_congr h]

theorem lookup_of_given {name : String} (h : config.get? name = some (.string t))
    (variableName : String) : lookup config environment name variableName = .ok (some t) := by
  rw [lookup, givenText, h]
  rfl

/-- The settings apart from the token. -/
def besidesToken (config : Config) (environment : String → Option String) :
    Except SettingsError Settings := do
  let url ← lookup config environment "url" "LINODE_URL"
  let apiVersion ← lookup config environment "api_version" "LINODE_API_VERSION"
  let userAgentPrefix ← lookup config environment "ua_prefix" "LINODE_UA_PREFIX"
  let pageSize ← checkPageSize (← givenWhole config "page_size")
  let url := url.getD defaultUrl
  if schemes.any (Text.startsWith url) then
    pure ⟨none, url, apiVersion.getD defaultApiVersion, pageSize, userAgentPrefix⟩
  else .error (.invalidUrl url)

/-- A token that is given is put beside the other settings, of which none looks at it. -/
theorem ofConfig_of_given (ht : config.get? "token" = some (.string t)) :
    ofConfig config environment =
      (besidesToken config environment).map (fun s => { s with token := some t }) := by
  rw [ofConfig, lookup_of_given ht, Outcomes.ok_bind, besidesToken]
  cases lookup config environment "url" "LINODE_URL" with
  | error e => rfl
  | ok url =>
  cases lookup config environment "api_version" "LINODE_API_VERSION" with
  | error e => rfl
  | ok apiVersion =>
  cases lookup config environment "ua_prefix" "LINODE_UA_PREFIX" with
  | error e => rfl
  | ok userAgentPrefix =>
  cases givenWhole config "page_size" with
  | error e => rfl
  | ok size =>
  simp only [Outcomes.ok_bind]
  cases checkPageSize size with
  | error e => rfl
  | ok pageSize =>
  simp only [Outcomes.ok_bind]
  split <;> rfl

theorem besidesToken_congr (hagree : AgreeExcept "token" config other) :
    besidesToken config environment = besidesToken other environment := by
  rw [besidesToken, besidesToken, lookup_congr (hagree "url" (by decide)),
    lookup_congr (hagree "api_version" (by decide)), lookup_congr (hagree "ua_prefix" (by decide)),
    givenWhole_congr (hagree "page_size" (by decide))]

/-! ### What is shown -/

/-- Everything by which settings are shown is the same for both: how they are listed, the address
and how the program calls itself. -/
structure ShownAlike (s s' : Settings) : Prop where
  listing : s.listing = s'.listing
  apiUrl : s.apiUrl = s'.apiUrl
  userAgent : s.userAgent = s'.userAgent

/-- A listing tells whether there is a token, and the rest does not look at it. -/
theorem shownAlike_of_token (s : Settings) (t u : String) :
    ShownAlike { s with token := some t } { s with token := some u } :=
  ⟨rfl, rfl, rfl⟩

/-- With a token there is a connection, in which only the token is its own. -/
theorem connect_of_token (s : Settings) :
    ∃ c : Connection, ∀ t,
      Settings.connect { s with token := some t } = .ok { c with token := t } :=
  ⟨⟨s.apiUrl, "", s.userAgent, s.pageSize⟩, fun _ => rfl⟩

/-- The token is not shown. Configurations that differ only in the text of their token have the same
diagnostics, and in the same environment they fail with the same error or make settings that differ
only in the token, are shown alike and lead to a connection each. -/
theorem token_undisclosed (hkeys : config.keys.Nodup) (hothers : other.keys.Nodup)
    (hagree : AgreeExcept "token" config other) (ht : config.get? "token" = some (.string t))
    (hu : other.get? "token" = some (.string u)) :
    schema.validate config = schema.validate other ∧
      ((∃ e, ofConfig config environment = .error e ∧ ofConfig other environment = .error e) ∨
        ∃ s s', ofConfig config environment = .ok s ∧ ofConfig other environment = .ok s' ∧
          s = { s' with token := some t } ∧ s' = { s with token := some u } ∧ ShownAlike s s' ∧
          ∃ c c', s.connect = .ok c ∧ s'.connect = .ok c' ∧ c' = { c with token := u }) := by
  refine ⟨validate_of_agreeExcept hkeys hothers hagree ht hu, ?_⟩
  rw [ofConfig_of_given ht, ofConfig_of_given hu, besidesToken_congr hagree]
  cases besidesToken other environment with
  | error e => exact .inl ⟨e, rfl, rfl⟩
  | ok s =>
    obtain ⟨c, hconnect⟩ := connect_of_token s
    exact .inr ⟨_, _, rfl, rfl, rfl, rfl, shownAlike_of_token s t u, _, _, hconnect t, hconnect u,
      rfl⟩

/-- A configuration with a token, and with a setting that is not known. -/
def withToken (token : String) : Config :=
  [("colour", .string "red"), ("token", .string token), ("ua_prefix", .string "inventory/2.0")]

/-- The same settings, given in another order. -/
def withTokenLast (token : String) : Config :=
  [("ua_prefix", .string "inventory/2.0"), ("colour", .string "red"), ("token", .string token)]

theorem token_undisclosed_of_unknown :
    (withToken "first").keys.Nodup ∧ (withTokenLast "second").keys.Nodup ∧
    AgreeExcept "token" (withToken "first") (withTokenLast "second") ∧
    (withToken "first").get? "token" = some (.string "first") ∧
    (withTokenLast "second").get? "token" = some (.string "second") ∧
    schema.validate (withToken "first") = schema.validate (withTokenLast "second") ∧
    ∃ s s', ofConfig (withToken "first") (fun _ => none) = .ok s ∧
      ofConfig (withTokenLast "second") (fun _ => none) = .ok s' ∧ ShownAlike s s' := by
  have hagree : AgreeExcept "token" (withToken "first") (withTokenLast "second") := by
    intro key hkey
    by_cases hfirst : key = "ua_prefix"
    · rw [hfirst]
      rfl
    · simp [withToken, withTokenLast, Dictionary.get?_cons, hkey, hfirst]
  obtain ⟨hsame, ⟨e, hfailed, -⟩ | ⟨s, s', hs, hs', -, -, hshown, -⟩⟩ :=
    @token_undisclosed _ _ (fun _ => none) _ _ (by decide) (by decide) hagree rfl rfl
  · cases hfailed
  · exact ⟨by decide, by decide, hagree, rfl, rfl, hsame, s, s', hs, hs', hshown⟩

end CloudInventory.Settings
