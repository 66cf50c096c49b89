import CloudInventory.Proofs.GivenSettings
import Mathlib.Data.List.DropRight

/-!
The address of the service is the address given and the version, joined by one slash. Slashes
around the version and behind the address are left out first, which may leave nothing of the
version, and of an address that is only a scheme not even that.
-/
namespace CloudInventory

namespace Text

variable {drop : Char → Bool} {cs first rest : List Char} {c : Char}

/-! ### Stripping -/

theorem stripBy_eq (drop : Char → Bool) (cs : List Char) :
    stripBy drop cs = (cs.dropWhile drop).rdropWhile drop := rfl

/-- What is left of two parts of which the second does not go as a whole. -/
theorem stripEndBy_append (h : ∃ c ∈ rest, drop c = false) :
    stripEndBy drop (first ++ rest) = first ++ stripEndBy drop rest := by
  have hstays : (rest.reverse.dropWhile drop).isEmpty = false := by
    obtain ⟨c, hc, hkept⟩ := h
    rw [← Bool.not_eq_true, List.isEmpty_iff, List.dropWhile_eq_nil_iff]
    intro hall
    rw [hall c (List.mem_reverse.mpr hc)] at hkept
    cases hkept
  rw [stripEndBy, List.reverse_append, List.dropWhile_append, hstays, if_neg Bool.false_ne_true,
    List.reverse_append, List.reverse_reverse]
  rfl

theorem stripEndBy_append_of_dropped (h : ∀ c ∈ rest, drop c = true) :
    stripEndBy drop (first ++ rest) = stripEndBy drop first := by
  rw [stripEndBy, List.reverse_append,
    List.dropWhile_append_of_pos (fun c hc => h c (List.mem_reverse.mp hc))]
  rfl

/-- Nothing is left just of what consists of characters to strip. -/
theorem stripBy_eq_nil_iff : stripBy drop cs = [] ↔ ∀ c ∈ cs, drop c = true := by
  rw [stripBy_eq, List.rdropWhile_eq_nil_iff]
  refine ⟨fun h => ?_, fun h c hc => h c ((List.dropWhile_suffix drop).mem hc)⟩
  rw [← List.dropWhile_eq_nil_iff]
  by_contra hstays
  have hhead := List.head_dropWhile_not drop hstays
  rw [h _ (List.head_mem hstays)] at hhead
  cases hhead

/-- What is left neither starts nor ends with a character to strip. -/
theorem head?_stripBy (h : (stripBy drop cs).head? = some c) : drop c = false := by
  obtain ⟨dropped, hsplit⟩ : stripBy drop cs <+: cs.dropWhile drop := List.rdropWhile_prefix drop _
  have hhead := List.head?_dropWhile_not drop cs
  rw [← hsplit, List.head?_append, h] at hhead
  exact hhead

theorem getLast?_stripBy (h : (stripBy drop cs).getLast? = some c) : drop c = false := by
  have hhead := List.head?_dropWhile_not drop (cs.dropWhile drop).reverse
  rw [stripBy, List.getLast?_reverse] at h
  rw [h] at hhead
  exact hhead

end Text

namespace Settings

/-! ### Joining -/

/-- The character that joins the address given and the version. -/
def isSlash (c : Char) : Bool := c = '/'

theorem toList_apiUrl (s : Settings) :
    s.apiUrl.toList =
      Text.stripEndBy isSlash s.url.toList ++ '/' :: Text.stripBy isSlash s.apiVersion.toList := by
  have hslash : "/".toList = ['/'] := rfl
  simp only [apiUrl, String.toList_append, String.toList_ofList, hslash, List.append_assoc,
    List.singleton_append]
  rfl

theorem not_slash_iff {cs : List Char} :
    (∃ c ∈ cs, c ≠ '/') ↔ ∃ c ∈ cs, isSlash c = false := by
  simp [isSlash]

/-- The address ends with a slash just when nothing is left of the version. -/
theorem getLast?_apiUrl (s : Settings) :
    s.apiUrl.toList.getLast? ≠ some '/' ↔ ∃ c ∈ s.apiVersion.toList, c ≠ '/' := by
  rw [toList_apiUrl, not_slash_iff, List.getLast?_append, List.getLast?_cons]
  cases hversion : (Text.stripBy isSlash s.apiVersion.toList).getLast? with
  | none =>
    refine iff_of_false ?_ ?_
    · simp
    · rintro ⟨c, hc, hkept⟩
      rw [Text.stripBy_eq_nil_iff.mp (List.getLast?_eq_none_iff.mp hversion) c hc] at hkept
      cases hkept
  | some last =>
    have hlast : isSlash last = false := Text.getLast?_stripBy hversion
    refine iff_of_true ?_ ?_
    · rintro ⟨⟩
      cases hlast
    · by_contra hslashes
      have hnothing : Text.stripBy isSlash s.apiVersion.toList = [] :=
        Text.stripBy_eq_nil_iff.mpr (by simpa using hslashes)
      rw [hnothing] at hversion
      cases hversion

theorem startsWith_iff {text start : String} :
    Text.startsWith text start = true ↔ start.toList <+: text.toList :=
  List.isPrefixOf_iff_prefix

/-- What is given after the scheme keeps the scheme from being touched. -/
theorem addressed_apiUrl {s : Settings} {scheme : String} {rest : List Char}
    (hscheme : scheme ∈ schemes) (hurl : s.url.toList = scheme.toList ++ rest)
    (hrest : ∃ c ∈ rest, c ≠ '/') : Addressed s.apiUrl := by
  refine ⟨scheme, hscheme, startsWith_iff.mpr ?_⟩
  rw [toList_apiUrl, hurl, Text.stripEndBy_append (not_slash_iff.mp hrest), List.append_assoc]
  exact List.prefix_append _ _

/-- Of a scheme with nothing but slashes behind it both slashes go, and one is put in their
place. -/
theorem not_addressed_apiUrl {s : Settings} {scheme : String} {rest : List Char}
    (hscheme : scheme ∈ schemes) (hurl : s.url.toList = scheme.toList ++ rest)
    (hrest : ∀ c ∈ rest, c = '/') : ¬ Addressed s.apiUrl := by
  have hversion : ¬ ['/'] <+: Text.stripBy isSlash s.apiVersion.toList := by
    rintro ⟨later, hlater⟩
    have hhead : isSlash '/' = false := Text.head?_stripBy (by rw [← hlater]; rfl)
    cases hhead
  have hbare : Text.stripEndBy isSlash s.url.toList = Text.stripEndBy isSlash scheme.toList := by
    rw [hurl, Text.stripEndBy_append_of_dropped (by simpa [isSlash] using hrest)]
  rintro ⟨other, hother, hstarts⟩
  rw [startsWith_iff, toList_apiUrl, hbare] at hstarts
  simp only [schemes, List.mem_cons, List.not_mem_nil, or_false] at hscheme hother
  have hhttp : Text.stripEndBy isSlash "http://".toList = ['h', 't', 't', 'p', ':'] := rfl
  have hhttps : Text.stripEndBy isSlash "https://".toList = ['h', 't', 't', 'p', 's', ':'] := rfl
  rcases hscheme with rfl | rfl
  · rw [hhttp] at hstarts
    rcases hother with rfl | rfl <;> simp [hversion] at hstarts
  · rw [hhttps] at hstarts
    rcases hother with rfl | rfl <;> simp [hversion] at hstarts

/-- The address of the service that settings describe starts like one just when the address given
has something besides slashes after its scheme, and it ends without a slash just when the version
has something besides slashes. -/
theorem apiUrl_wellShaped_iff {config : Config} {environment : String → Option String}
    {s : Settings} (h : ofConfig config environment = .ok s) :
    (Addressed s.apiUrl ↔ ∃ scheme ∈ schemes, ∃ rest : String, s.url = scheme ++ rest ∧
      ∃ c ∈ rest.toList, c ≠ '/') ∧
    (s.apiUrl.toList.getLast? ≠ some '/' ↔ ∃ c ∈ s.apiVersion.toList, c ≠ '/') := by
  refine ⟨⟨?_, ?_⟩, getLast?_apiUrl s⟩
  · intro haddressed
    obtain ⟨scheme, hscheme, hstarts⟩ := (ofConfig_eq_ok.mp h).addressed
    obtain ⟨rest, hrest⟩ := startsWith_iff.mp hstarts
    refine ⟨scheme, hscheme, String.ofList rest, ?_, ?_⟩
    · rw [← String.toList_inj, String.toList_append, String.toList_ofList, hrest]
    · by_contra hslashes
      refine not_addressed_apiUrl hscheme hrest.symm ?_ haddressed
      simpa using hslashes
  · rintro ⟨scheme, hscheme, rest, hurl, hrest⟩
    exact addressed_apiUrl hscheme (by rw [hurl, String.toList_append]) hrest

/-- An address and a version with more slashes than are needed. -/
def slashedConfig : Config :=
  [("api_version", .string "/v4beta/"), ("url", .string "http://localhost:8080//")]

/-- Slashes on either side of where the address given and the version meet do no harm. -/
theorem apiUrl_wellShaped_of_slashes :
    ∃ s, ofConfig slashedConfig (fun _ => none) = .ok s ∧
      Addressed s.apiUrl ∧ s.apiUrl.toList.getLast? ≠ some '/' := by
  have hs : ofConfig slashedConfig (fun _ => none) =
      .ok ⟨none, "http://localhost:8080//", "/v4beta/", 500, none⟩ := rfl
  obtain ⟨hstart, hend⟩ := apiUrl_wellShaped_iff hs
  refine ⟨_, hs, hstart.mpr ?_, hend.mpr ⟨'v', by decide, by decide⟩⟩
  exact ⟨"http://", by decide, "localhost:8080//", by decide, 'l', by decide, by decide⟩

/-- A version of slashes leaves a slash at the end, and of an address that is a scheme alone too
little is left at the start. -/
theorem apiUrl_misshapen :
    (∃ s, ofConfig [("api_version", .string "/")] (fun _ => none) = .ok s ∧
      s.apiUrl.toList.getLast? = some '/') ∧
    ∃ s, ofConfig [("url", .string "https://")] (fun _ => none) = .ok s ∧ ¬ Addressed s.apiUrl :=
  ⟨⟨_, rfl, by decide⟩, _, rfl, by decide⟩

end Settings

end CloudInventory
