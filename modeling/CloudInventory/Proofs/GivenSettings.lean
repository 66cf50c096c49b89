import CloudInventory.Proofs.CheckedConfig
import CloudInventory.Provider.Settings

/-!
Where settings come from. Each text is the one given in the configuration, else that of an
environment variable which is not empty, else the default; and a configuration of known settings is
accepted by its schema just when settings are made of it, provided that the environment has no
unusable address.
-/
namespace CloudInventory

namespace Attribute

/-- What may be left out and may be set is accepted if it is left out or conforms. -/
theorem accepts_iff_of_optional {a : Attribute} {given : Option Value}
    (hrequired : a.required = false) (hcomputed : a.computed = false) :
    a.Accepts given ↔ given = none ∨ given = some .null ∨ ∃ value, given = some value ∧
      value ≠ .null ∧ a.type.check value = .ok () ∧ ∀ v ∈ a.validators, v.check value = .ok () := by
  refine ⟨Accepts.absent_or_conforms, ?_⟩
  rintro (rfl | rfl | ⟨value, rfl, hnull, htype, hvalidators⟩)
  · simp [Accepts, hrequired]
  · simp [Accepts, hrequired]
  · cases value with
    | null => exact absurd rfl hnull
    | string _ | int _ | float _ | bool _ | list _ | map _ =>
      exact ⟨by simp [hcomputed], htype, hvalidators⟩

end Attribute

namespace Settings

variable {config : Config} {environment : String → Option String} {name variableName : String}

/-! ### One setting -/

/-- Nothing but null is given for a setting. -/
def Absent (config : Config) (name : String) : Prop :=
  config.get? name = none ∨ config.get? name = some .null

theorem Absent.ne_some (h : Absent config name) (s : String) :
    config.get? name ≠ some (.string s) := by
  rcases h with hnone | hnull
  · rw [hnone]
    nofun
  · rw [hnull]
    nofun

/-- The text of a setting, or that there is none: it is given in the configuration, else it is that
of a variable which is not empty. -/
inductive Settled (config : Config) (environment : String → Option String)
    (name variableName : String) : Option String → Prop
  | given {s : String} (given : config.get? name = some (.string s)) :
    Settled config environment name variableName (some s)
  | fromEnvironment {s : String} (absent : Absent config name)
    (set : environment variableName = some s) (nonempty : s ≠ "") :
    Settled config environment name variableName (some s)
  | nowhere (absent : Absent config name) (unset : ∀ s ∈ environment variableName, s = "") :
    Settled config environment name variableName none

theorem givenText_eq_ok {setting : Option String} :
    givenText config name = .ok setting ↔
      Absent config name ∧ setting = none ∨
        ∃ s, config.get? name = some (.string s) ∧ setting = some s := by
  unfold givenText Absent
  cases config.get? name with
  | none => simp [eq_comm]
  | some value => cases value <;> simp [eq_comm]

theorem filter_nonempty_eq_some {set : Option String} {s : String} :
    set.filter (fun s => !s.isEmpty) = some s ↔ set = some s ∧ s ≠ "" := by
  simp [Option.filter_eq_some_iff]

theorem filter_nonempty_eq_none {set : Option String} :
    set.filter (fun s => !s.isEmpty) = none ↔ ∀ s ∈ set, s = "" := by
  simp [Option.filter_eq_none_iff]

/-- What is not given in the configuration is settled by the environment. -/
theorem Absent.settled (h : Absent config name) :
    Settled config environment name variableName
      ((environment variableName).filter (fun s => !s.isEmpty)) := by
  cases hset : (environment variableName).filter (fun s => !s.isEmpty) with
  | none => exact .nowhere h (filter_nonempty_eq_none.mp hset)
  | some s =>
    obtain ⟨hvariable, hnonempty⟩ := filter_nonempty_eq_some.mp hset
    exact .fromEnvironment h hvariable hnonempty

theorem lookup_eq_ok {setting : Option String} :
    lookup config environment name variableName = .ok setting ↔
      Settled config environment name variableName setting := by
  simp only [lookup, Outcomes.bind_eq_ok, givenText_eq_ok]
  constructor
  · rintro ⟨_, ⟨habsent, rfl⟩ | ⟨s, hs, rfl⟩, hsetting⟩
    · cases hsetting
      exact habsent.settled
    · cases hsetting
      exact .given hs
  · intro h
    cases h with
    | given hs => exact ⟨_, .inr ⟨_, hs, rfl⟩, rfl⟩
    | fromEnvironment habsent hset hnonempty =>
      refine ⟨none, .inl ⟨habsent, rfl⟩, ?_⟩
      dsimp only
      rw [filter_nonempty_eq_some.mpr ⟨hset, hnonempty⟩]
      rfl
    | nowhere habsent hunset =>
      refine ⟨none, .inl ⟨habsent, rfl⟩, ?_⟩
      dsimp only
      rw [filter_nonempty_eq_none.mpr hunset]
      rfl

/-- The page size is one that the vendor serves: the one that is given, else the largest. -/
inductive Sized (config : Config) : UInt32 → Prop
  | given {n : Int64} {size : UInt32} (given : config.get? "page_size" = some (.int n))
    (served : 25 ≤ n.toInt ∧ n.toInt ≤ 500) (same : (size.toNat : Int) = n.toInt) :
    Sized config size
  | largest (absent : Absent config "page_size") : Sized config 500

theorem served_iff {n : Int64} :
    pageSizes.1 ≤ n ∧ n ≤ pageSizes.2 ↔ 25 ≤ n.toInt ∧ n.toInt ≤ 500 := by
  have hsmallest : pageSizes.1.toInt = 25 := by decide
  have hlargest : pageSizes.2.toInt = 500 := by decide
  rw [Int64.le_iff_toInt_le, Int64.le_iff_toInt_le, hsmallest, hlargest]

theorem givenWhole_eq_ok {setting : Option Int64} :
    givenWhole config name = .ok setting ↔
      Absent config name ∧ setting = none ∨
        ∃ n, config.get? name = some (.int n) ∧ setting = some n := by
  unfold givenWhole Absent
  cases config.get? name with
  | none => simp [eq_comm]
  | some value => cases value <;> simp [eq_comm]

theorem toNat_ofNat_of_served {n : Int64} (h : 25 ≤ n.toInt ∧ n.toInt ≤ 500) :
    ((UInt32.ofNat n.toInt.toNat).toNat : Int) = n.toInt := by
  have hfits : n.toInt.toNat < UInt32.size := by
    have hsize : UInt32.size = 4294967296 := rfl
    omega
  rw [UInt32.toNat_ofNat_of_lt' hfits, Int.toNat_of_nonneg (by omega)]

theorem pageSize_eq_ok {size : UInt32} :
    (givenWhole config "page_size" >>= checkPageSize) = .ok size ↔ Sized config size := by
  simp only [Outcomes.bind_eq_ok, givenWhole_eq_ok]
  constructor
  · rintro ⟨_, ⟨habsent, rfl⟩ | ⟨n, hn, rfl⟩, hsize⟩
    · cases hsize
      exact .largest habsent
    · rw [checkPageSize] at hsize
      split at hsize
      case isTrue hserved =>
        cases hsize
        exact .given hn (served_iff.mp hserved) (toNat_ofNat_of_served (served_iff.mp hserved))
      case isFalse => cases hsize
  · intro h
    cases h with
    | given hn hserved hsame =>
      refine ⟨_, .inr ⟨_, hn, rfl⟩, ?_⟩
      rw [checkPageSize, if_pos (served_iff.mpr hserved), Except.ok.injEq, ← UInt32.toNat_inj,
        ← Int.natCast_inj, toNat_ofNat_of_served hserved, hsame]
    | largest habsent => exact ⟨none, .inl ⟨habsent, rfl⟩, rfl⟩

theorem Sized.served {size : UInt32} (h : Sized config size) :
    25 ≤ size.toNat ∧ size.toNat ≤ 500 := by
  cases h with
  | given _ hserved hsame => omega
  | largest => decide

/-! ### All settings -/

/-- An address starts like one. -/
def Addressed (url : String) : Prop :=
  ∃ scheme ∈ schemes, Text.startsWith url scheme = true

instance (url : String) : Decidable (Addressed url) :=
  inferInstanceAs (Decidable (∃ scheme ∈ schemes, _))

/-- Every setting comes from where it should, with its default if it has one. -/
structure SpelledBy (s : Settings) (config : Config) (environment : String → Option String) :
    Prop where
  token : Settled config environment "token" "LINODE_TOKEN" s.token
  url : ∃ url, Settled config environment "url" "LINODE_URL" url ∧ s.url = url.getD defaultUrl
  apiVersion : ∃ version, Settled config environment "api_version" "LINODE_API_VERSION" version ∧
    s.apiVersion = version.getD defaultApiVersion
  userAgentPrefix : Settled config environment "ua_prefix" "LINODE_UA_PREFIX" s.userAgentPrefix
  pageSize : Sized config s.pageSize
  addressed : Addressed s.url

theorem any_startsWith_iff {url : String} :
    schemes.any (Text.startsWith url) = true ↔ Addressed url :=
  List.any_eq_true

/-- Settings are made of a configuration and an environment just when these spell them. -/
theorem ofConfig_eq_ok {s : Settings} :
    ofConfig config environment = .ok s ↔ s.SpelledBy config environment := by
  simp only [ofConfig, Outcomes.bind_eq_ok, lookup_eq_ok]
  constructor
  · rintro ⟨token, htoken, url, hurl, version, hversion, first, hfirst, given, hgiven, size, hsize,
      hdone⟩
    split at hdone
    case isTrue haddressed =>
      cases hdone
      exact ⟨htoken, ⟨url, hurl, rfl⟩, ⟨version, hversion, rfl⟩, hfirst,
        pageSize_eq_ok.mp (Outcomes.bind_eq_ok.mpr ⟨given, hgiven, hsize⟩),
        any_startsWith_iff.mp haddressed⟩
    case isFalse => cases hdone
  · intro h
    obtain ⟨url, hurl, hurlSame⟩ := h.url
    obtain ⟨version, hversion, hversionSame⟩ := h.apiVersion
    obtain ⟨given, hgiven, hsize⟩ := Outcomes.bind_eq_ok.mp (pageSize_eq_ok.mpr h.pageSize)
    refine ⟨_, h.token, url, hurl, version, hversion, _, h.userAgentPrefix, given, hgiven, _, hsize,
      ?_⟩
    rw [← hurlSame, ← hversionSame, if_pos (any_startsWith_iff.mpr h.addressed)]
    rfl

/-! ### When there are settings -/

/-- A setting that is a text has one or none unless something else is given for it. -/
theorem exists_settled_iff :
    (∃ setting, Settled config environment name variableName setting) ↔
      Absent config name ∨ ∃ s, config.get? name = some (.string s) := by
  constructor
  · rintro ⟨_, h⟩
    cases h with
    | given hs => exact .inr ⟨_, hs⟩
    | fromEnvironment habsent | nowhere habsent => exact .inl habsent
  · rintro (habsent | ⟨s, hs⟩)
    · exact ⟨_, habsent.settled⟩
    · exact ⟨some s, .given hs⟩

theorem exists_sized_iff :
    (∃ size, Sized config size) ↔ Absent config "page_size" ∨
      ∃ n, config.get? "page_size" = some (.int n) ∧ 25 ≤ n.toInt ∧ n.toInt ≤ 500 := by
  constructor
  · rintro ⟨_, h⟩
    cases h with
    | given hn hserved => exact .inr ⟨_, hn, hserved⟩
    | largest habsent => exact .inl habsent
  · rintro (habsent | ⟨n, hn, hserved⟩)
    · exact ⟨500, .largest habsent⟩
    · exact ⟨_, .given hn hserved (toNat_ofNat_of_served hserved)⟩

/-- Where the variable of the address is of use, so is what the address is settled to be. -/
theorem exists_address (haddress : ∀ url ∈ environment "LINODE_URL", url = "" ∨ Addressed url)
    (h : Absent config "url" ∨ ∃ s, config.get? "url" = some (.string s) ∧ Addressed s) :
    ∃ url, Settled config environment "url" "LINODE_URL" url ∧ Addressed (url.getD defaultUrl) := by
  rcases h with habsent | ⟨s, hs, haddressed⟩
  · obtain ⟨url, hurl⟩ : ∃ url, Settled config environment "url" "LINODE_URL" url :=
      ⟨_, habsent.settled⟩
    refine ⟨url, hurl, ?_⟩
    cases hurl with
    | given hgiven => exact absurd hgiven (habsent.ne_some _)
    | fromEnvironment _ hset hnonempty => exact (haddress _ hset).resolve_left hnonempty
    | nowhere => decide
  · exact ⟨some s, .given hs, haddressed⟩

theorem given_address {url : Option String}
    (h : Settled config environment "url" "LINODE_URL" url)
    (haddressed : Addressed (url.getD defaultUrl)) :
    Absent config "url" ∨ ∃ s, config.get? "url" = some (.string s) ∧ Addressed s := by
  cases h with
  | given hgiven => exact .inr ⟨_, hgiven, haddressed⟩
  | fromEnvironment habsent | nowhere habsent => exact .inl habsent

/-! ### What the schema accepts -/

section Accepts

variable {a : Attribute}

/-- What may be left out and may be set, and whose type is of one kind of values, is accepted if it
is absent or of that kind and passes all validators. -/
theorem accepts_iff_of_kind {β : Type} {kind : β → Value} (hrequired : a.required = false)
    (hcomputed : a.computed = false) (hnull : ∀ x, kind x ≠ .null)
    (htype : ∀ value, a.type.check value = .ok () ↔ value = .null ∨ ∃ x, value = kind x) :
    a.Accepts (config.get? name) ↔ Absent config name ∨
      ∃ x, config.get? name = some (kind x) ∧ ∀ v ∈ a.validators, v.check (kind x) = .ok () := by
  rw [Attribute.accepts_iff_of_optional hrequired hcomputed, Absent, or_assoc]
  refine or_congr_right (or_congr_right ⟨?_, ?_⟩)
  · rintro ⟨value, hgiven, hset, hkind, hvalidators⟩
    obtain ⟨x, rfl⟩ := ((htype value).mp hkind).resolve_left hset
    exact ⟨x, hgiven, hvalidators⟩
  · rintro ⟨x, hgiven, hvalidators⟩
    exact ⟨_, hgiven, hnull x, (htype _).mpr (.inr ⟨x, rfl⟩), hvalidators⟩

theorem accepts_text_iff (hrequired : a.required = false) (hcomputed : a.computed = false)
    (htype : a.type = .string) :
    a.Accepts (config.get? name) ↔ Absent config name ∨ ∃ s,
      config.get? name = some (.string s) ∧ ∀ v ∈ a.validators, v.check (.string s) = .ok () := by
  refine accepts_iff_of_kind hrequired hcomputed nofun (fun _ => ?_)
  rw [htype, AttributeType.check_string_eq_ok]

theorem accepts_whole_iff (hrequired : a.required = false) (hcomputed : a.computed = false)
    (htype : a.type = .int) :
    a.Accepts (config.get? name) ↔ Absent config name ∨ ∃ n,
      config.get? name = some (.int n) ∧ ∀ v ∈ a.validators, v.check (.int n) = .ok () := by
  refine accepts_iff_of_kind hrequired hcomputed nofun (fun _ => ?_)
  rw [htype, AttributeType.check_int_eq_ok]

end Accepts

theorem stringPrefix_check {s : String} :
    (Validator.stringPrefix schemes).check (.string s) = .ok () ↔ Addressed s :=
  Outcomes.guard_eq_ok.trans any_startsWith_iff

theorem intBetween_check {n : Int64} :
    (Validator.intBetween pageSizes.1 pageSizes.2).check (.int n) = .ok () ↔
      25 ≤ n.toInt ∧ n.toInt ≤ 500 :=
  Outcomes.guard_eq_ok.trans served_iff

/-- A configuration of known settings is accepted if what is given for each of them, unless it is
null, is of its kind, with an address that starts like one and a page size that is served. -/
theorem valid_iff (hkeys : ∀ key ∈ config.keys,
      key ∈ ["token", "url", "api_version", "page_size", "ua_prefix"]) :
    (schema.validate config).hasError = false ↔
      (Absent config "token" ∨ ∃ s, config.get? "token" = some (.string s)) ∧
      (Absent config "url" ∨ ∃ s, config.get? "url" = some (.string s) ∧ Addressed s) ∧
      (Absent config "api_version" ∨ ∃ s, config.get? "api_version" = some (.string s)) ∧
      (Absent config "page_size" ∨
        ∃ n, config.get? "page_size" = some (.int n) ∧ 25 ≤ n.toInt ∧ n.toInt ≤ 500) ∧
      (Absent config "ua_prefix" ∨ ∃ s, config.get? "ua_prefix" = some (.string s)) := by
  have hknown : ∀ key ∈ config.keys,
      schema.attributes.contains key = true ∨ schema.blocks.contains key = true :=
    fun key hkey => .inl (Dictionary.contains_ofPairs.mpr (hkeys key hkey))
  have hnames : ["token", "url", "api_version", "page_size", "ua_prefix"].Nodup := by decide
  have hattributes : (∀ p ∈ schema.attributes, p.2.Accepts (config.get? p.1)) ↔ _ :=
    Dictionary.forall_ofPairs_iff (by exact hnames)
  have hblocks : ∀ p ∈ schema.blocks, blockFindings p.1 p.2 (config.get? p.1) = [] :=
    fun _ hp => absurd hp List.not_mem_nil
  rw [Schema.hasError_validate_iff, Schema.findings, contentFindings_eq_nil,
    and_iff_right hknown, and_iff_left hblocks, hattributes]
  simp only [List.forall_mem_cons, accepts_text_iff, accepts_whole_iff, stringPrefix_check,
    intBetween_check, List.not_mem_nil, false_implies, implies_true, and_true]

/-- A configuration of known settings is accepted by the schema just when settings are made of it,
if the variable of the address is unset, empty or an address. Each of the settings is then the one
given, else that of the environment, else the default, and the page size is one that is served. -/
theorem valid_iff_spelled (hkeys : ∀ key ∈ config.keys,
      key ∈ ["token", "url", "api_version", "page_size", "ua_prefix"])
    (haddress : ∀ url ∈ environment "LINODE_URL", url = "" ∨ Addressed url) :
    ((schema.validate config).hasError = false ↔ ∃ s, ofConfig config environment = .ok s) ∧
      ∀ s, ofConfig config environment = .ok s → s.SpelledBy config environment ∧
        25 ≤ s.pageSize.toNat ∧ s.pageSize.toNat ≤ 500 := by
  rw [valid_iff hkeys]
  refine ⟨⟨?_, ?_⟩, ?_⟩
  · rintro ⟨htoken, hurl, hversion, hsize, hfirst⟩
    obtain ⟨token, htoken⟩ := exists_settled_iff.mpr htoken
    obtain ⟨url, hurl, haddressed⟩ := exists_address haddress hurl
    obtain ⟨version, hversion⟩ := exists_settled_iff.mpr hversion
    obtain ⟨size, hsize⟩ := exists_sized_iff.mpr hsize
    obtain ⟨first, hfirst⟩ := exists_settled_iff.mpr hfirst
    exact ⟨⟨token, url.getD defaultUrl, version.getD defaultApiVersion, size, first⟩,
      ofConfig_eq_ok.mpr ⟨htoken, ⟨url, hurl, rfl⟩, ⟨version, hversion, rfl⟩, hfirst, hsize,
        haddressed⟩⟩
  · rintro ⟨s, hs⟩
    have hspelled := ofConfig_eq_ok.mp hs
    obtain ⟨url, hurl, hsame⟩ := hspelled.url
    obtain ⟨version, hversion, -⟩ := hspelled.apiVersion
    have haddressed : Addressed (url.getD defaultUrl) := hsame ▸ hspelled.addressed
    exact ⟨exists_settled_iff.mp ⟨_, hspelled.token⟩, given_address hurl haddressed,
      exists_settled_iff.mp ⟨_, hversion⟩, exists_sized_iff.mp ⟨_, hspelled.pageSize⟩,
      exists_settled_iff.mp ⟨_, hspelled.userAgentPrefix⟩⟩
  · intro s hs
    have hspelled := ofConfig_eq_ok.mp hs
    exact ⟨hspelled, hspelled.pageSize.served⟩

/-- A service at hand, whose token is given as null. -/
def localConfig : Config :=
  [("page_size", .int 25), ("token", .null), ("url", .string "http://localhost:8080/")]

/-- An environment with a token, and with an address and a version that are empty. -/
def localEnvironment (variableName : String) : Option String :=
  if variableName = "LINODE_TOKEN" then some "secret"
  else if variableName = "LINODE_URL" ∨ variableName = "LINODE_API_VERSION" then some ""
  else none

theorem valid_iff_spelled_local :
    (∀ key ∈ localConfig.keys, key ∈ ["token", "url", "api_version", "page_size", "ua_prefix"]) ∧
    (∀ url ∈ localEnvironment "LINODE_URL", url = "" ∨ Addressed url) ∧
    (schema.validate localConfig).hasError = false ∧
    (⟨some "secret", "http://localhost:8080/", "v4", 25, none⟩ : Settings).SpelledBy localConfig
      localEnvironment := by
  have hkeys : ∀ key ∈ localConfig.keys,
      key ∈ ["token", "url", "api_version", "page_size", "ua_prefix"] := by decide
  have haddress : ∀ url ∈ localEnvironment "LINODE_URL", url = "" ∨ Addressed url := by decide
  obtain ⟨hvalid, hspelled⟩ := valid_iff_spelled hkeys haddress
  exact ⟨hkeys, haddress, hvalid.mpr ⟨_, rfl⟩, (hspelled _ rfl).1⟩

end Settings

end CloudInventory
