import Automation.Browser.Action
import Automation.Web.Standard
import Mathlib.Data.List.DropRight

/-!
# Where a navigation goes

An address without a scheme is meant to be that of a secure host. Whether it has a scheme is taken
from any `://` in it, wherever that stands. So an address that begins with a scheme stays as it is,
an address in which no `://` occurs is that of a secure host, and an address that has `://` only
further on, in its query say, is read as it is: it has no scheme and is refused, or what stands
before its first colon, the name of the host, is taken for one (`normalizeUrl_destination`). What
comes out stays as it is when it goes in again. How the library reads a URL matters only where an
address is read as it is, and no more of it than the two rules of `Web.LawfulLibrary`.
-/

namespace Automation

/-! ## Trimmed texts -/

namespace Text

/-- A text with no blank at either end. -/
def Trimmed (cs : List Char) : Prop :=
  ∀ some : cs ≠ [], isBlank (cs.head some) = false ∧ isBlank (cs.getLast some) = false

variable {cs : List Char}

theorem trimmed_trimChars (cs : List Char) : Trimmed (trimChars cs) := by
  intro some
  have start : trimChars cs <+: cs.dropWhile isBlank := List.rdropWhile_prefix ..
  have first : (trimChars cs).head some = (cs.dropWhile isBlank).head _ := start.head some
  have last := List.rdropWhile_last_not isBlank (cs.dropWhile isBlank) some
  exact ⟨by rw [first, List.head_dropWhile_not isBlank], Bool.eq_false_iff.mpr last⟩

theorem Trimmed.trimChars_eq (h : Trimmed cs) : trimChars cs = cs := by
  cases cs with
  | nil => rfl
  | cons c rest =>
    obtain ⟨first, last⟩ := h (List.cons_ne_nil c rest)
    have begun : (c :: rest).dropWhile isBlank = c :: rest :=
      List.dropWhile_cons_of_neg (by simpa using first)
    have ended : (c :: rest).rdropWhile isBlank = c :: rest :=
      List.rdropWhile_eq_self_iff.mpr fun _ => by simpa using last
    rw [trimChars, begun]
    exact ended

theorem Trimmed.append {before : List Char} (first : Trimmed before) (some : before ≠ [])
    (h : Trimmed cs) : Trimmed (before ++ cs) := by
  intro some'
  rw [List.head_append_of_ne_nil some]
  refine ⟨(first some).1, ?_⟩
  cases cs with
  | nil => simpa using (first some).2
  | cons c rest =>
    rw [List.getLast_append_of_ne_nil _ (List.cons_ne_nil c rest)]
    exact (h _).2

/-- A trimmed text stays as it is, also behind a text that begins and ends with something else. -/
theorem trim_append_trim {start : String} (first : Trimmed start.toList) (some : start.toList ≠ [])
    (raw : String) : trim (start ++ trim raw) = start ++ trim raw := by
  have trimmed := first.append some (trimmed_trimChars raw.toList)
  rw [trim, String.toList_append, trim, String.toList_ofList, trimmed.trimChars_eq,
    String.ofList_append, String.ofList_toList]

theorem trim_trim (raw : String) : trim (trim raw) = trim raw := by
  rw [trim, trim, String.toList_ofList, (trimmed_trimChars raw.toList).trimChars_eq]

end Text

/-! ## Schemes -/

namespace Web

/-- Whether a character may stand in a scheme behind its first letter. -/
def isSchemeChar (c : Char) : Bool := c.isAlphanum || c == '+' || c == '-' || c == '.'

/-- A scheme: a letter, and then letters, digits and three other characters. -/
def IsScheme (name : List Char) : Prop :=
  ∃ letter more, name = letter :: more ∧ letter.isAlpha = true ∧ ∀ c ∈ more, isSchemeChar c = true

/-- A text that begins with a scheme and a mark behind it. -/
def BeginsWithScheme (mark text : List Char) : Prop :=
  ∃ name behind, IsScheme name ∧ text = name ++ (mark ++ behind)

theorem IsScheme.schemeChars {name : List Char} (h : IsScheme name) :
    ∀ c ∈ name, isSchemeChar c = true := by
  obtain ⟨letter, more, rfl, isLetter, others⟩ := h
  have first : isSchemeChar letter = true := by simp [isSchemeChar, Char.isAlphanum, isLetter]
  exact List.forall_mem_cons.mpr ⟨first, others⟩

namespace Url

theorem drop_length_takeWhile (p : Char → Bool) (cs : List Char) :
    cs.drop (cs.takeWhile p).length = cs.dropWhile p := by
  induction cs with
  | nil => rfl
  | cons c rest ih =>
    rw [List.takeWhile_cons, List.dropWhile_cons]
    split
    · rw [List.length_cons, List.drop_succ_cons, ih]
    · rfl

/-- The characters that may belong to a scheme, and the colon behind them. -/
theorem splitScheme_cons (c : Char) (text : List Char) :
    splitScheme (c :: text) =
      match c.isAlpha, (c :: text).dropWhile isSchemeChar with
      | true, ':' :: rest =>
        some ((String.ofList ((c :: text).takeWhile isSchemeChar)).toLower, rest)
      | _, _ => none := by
  rw [← drop_length_takeWhile]
  rfl

/-- The scheme of a text is what stands before its first colon, if that is a scheme. -/
theorem splitScheme_eq_some_iff {text rest : List Char} {scheme : String} :
    splitScheme text = some (scheme, rest) ↔
      ∃ name, IsScheme name ∧ text = name ++ ':' :: rest ∧
        scheme = (String.ofList name).toLower := by
  constructor
  · intro h
    cases text with
    | nil => cases h
    | cons letter more =>
      rw [splitScheme_cons] at h
      split at h
      next isLetter behind =>
        cases h
        have first : isSchemeChar letter = true := by
          simp [isSchemeChar, Char.isAlphanum, isLetter]
        refine ⟨(letter :: more).takeWhile isSchemeChar, ⟨letter, more.takeWhile isSchemeChar,
          List.takeWhile_cons_of_pos first, isLetter, fun c there => List.mem_takeWhile_imp there⟩,
          ?_, rfl⟩
        rw [← behind, List.takeWhile_append_dropWhile]
      next => cases h
  · rintro ⟨name, isScheme, rfl, rfl⟩
    have chars := isScheme.schemeChars
    obtain ⟨letter, more, rfl, isLetter, -⟩ := isScheme
    have before : (letter :: more ++ ':' :: rest).takeWhile isSchemeChar = letter :: more := by
      rw [List.takeWhile_append_of_pos chars, List.takeWhile_cons_of_neg (by decide),
        List.append_nil]
    have behind : (letter :: more ++ ':' :: rest).dropWhile isSchemeChar = ':' :: rest := by
      rw [List.dropWhile_append_of_pos chars, List.dropWhile_cons_of_neg (by decide)]
    rw [List.cons_append] at before behind ⊢
    simp only [splitScheme_cons, before, behind, isLetter]

theorem beginsWithScheme_iff {mark text : List Char} :
    BeginsWithScheme (':' :: mark) text ↔
      (splitScheme text).any (fun found => mark.isPrefixOf found.2) = true := by
  rw [Option.any_eq_true]
  constructor
  · rintro ⟨name, behind, isScheme, rfl⟩
    have split : splitScheme (name ++ (':' :: mark ++ behind)) =
        some ((String.ofList name).toLower, mark ++ behind) :=
      splitScheme_eq_some_iff.mpr ⟨name, isScheme, rfl, rfl⟩
    exact ⟨_, split, List.isPrefixOf_iff_prefix.mpr (List.prefix_append mark behind)⟩
  · rintro ⟨⟨scheme, rest⟩, split, marked⟩
    obtain ⟨name, isScheme, rfl, -⟩ := splitScheme_eq_some_iff.mp split
    obtain ⟨behind, rfl⟩ := List.isPrefixOf_iff_prefix.mp marked
    exact ⟨name, behind, isScheme, rfl⟩

instance (mark text : List Char) : Decidable (BeginsWithScheme (':' :: mark) text) :=
  decidable_of_iff _ beginsWithScheme_iff.symm

/-- A text that does not begin with a scheme and a colon is no absolute URL. -/
theorem parse_of_relative {text : String} (h : ¬BeginsWithScheme [':'] (stripped text)) :
    parse text = .error .relative := by
  have none : splitScheme (stripped text) = none := by
    simpa [beginsWithScheme_iff] using h
  rw [parse, none]

/-- Behind a scheme of no special kind anything is read, unless two slashes begin an authority. -/
theorem readBody_of_other {scheme : String} (other : SchemeKind.of scheme = .other)
    {text : List Char} (plain : ¬['/', '/'] <+: text) (atEnd : Bool) :
    ∃ r, readBody scheme text atEnd = .ok r := by
  simp only [readBody, other]
  split
  next => simp at plain
  next => exact ⟨_, rfl⟩
  next => exact ⟨_, rfl⟩

theorem parse_of_other {text : String} {name rest : List Char} (isScheme : IsScheme name)
    (read : stripped text = name ++ ':' :: rest)
    (other : SchemeKind.of (String.ofList name).toLower = .other)
    (plain : ¬['/', '/'] <+: rest) : ∃ u, parse text = .ok u := by
  have split : splitScheme (stripped text) = some ((String.ofList name).toLower, rest) :=
    splitScheme_eq_some_iff.mpr ⟨name, isScheme, read, rfl⟩
  have body : ¬['/', '/'] <+: (splitTail rest).1 := fun slashes =>
    plain (slashes.trans ((List.takeWhile_prefix _).trans (List.takeWhile_prefix _)))
  obtain ⟨_, found⟩ := readBody_of_other other body
    ((splitTail rest).2.1.isNone && (splitTail rest).2.2.isNone)
  rw [parse, split]
  simp only [found]
  exact ⟨_, rfl⟩

end Url

/-- What a library of the web keeps to where it reads a URL that is not one of the web. -/
class LawfulLibrary [Library] : Prop where
  /-- A text that does not begin with a scheme and a colon is no absolute URL. -/
  relative : ∀ {text}, ¬BeginsWithScheme [':'] (Url.stripped text) →
    Library.url text = .error "relative URL without a base"
  /-- Behind a scheme of no special kind anything is read, unless two slashes begin an authority. -/
  other : ∀ {text name rest}, IsScheme name → Url.stripped text = name ++ ':' :: rest →
    SchemeKind.of (String.ofList name).toLower = .other → ¬['/', '/'] <+: rest →
    ∃ u, Library.url text = .ok u

/-- The library that runs keeps to it. -/
instance : LawfulLibrary where
  relative {text} h := by
    show (Url.parse text).mapError UrlError.message = _
    rw [Url.parse_of_relative h]
    rfl
  other {text} _ _ isScheme read other plain := by
    obtain ⟨u, found⟩ := Url.parse_of_other isScheme read other plain
    refine ⟨u, ?_⟩
    show (Url.parse text).mapError UrlError.message = _
    rw [found]
    rfl

end Web

/-! ## Addresses of navigations -/

/-- An address that says by itself how it is reached: it begins with a scheme and `://`, or with one
of two schemes that need no slashes. -/
def IsAbsolute (address : String) : Prop :=
  Web.BeginsWithScheme [':', '/', '/'] address.toList ∨
    Text.startsWith address "about:" = true ∨ Text.startsWith address "data:" = true

instance (address : String) : Decidable (IsAbsolute address) :=
  inferInstanceAs (Decidable (_ ∨ _ ∨ _))

theorem namesScheme_of_contains {address : String} (h : Text.contains address "://" = true) :
    namesScheme address = true := by
  simp [namesScheme, h]

theorem IsAbsolute.namesScheme {address : String} (h : IsAbsolute address) :
    namesScheme address = true := by
  rcases h with ⟨name, behind, -, begins⟩ | about | data
  · refine namesScheme_of_contains (Text.occursIn_iff.mpr ⟨name, behind, ?_⟩)
    simp [begins]
  · simp [Automation.namesScheme, about]
  · simp [Automation.namesScheme, data]

theorem namesScheme_of_not_isAbsolute {address : String} (h : ¬IsAbsolute address) :
    namesScheme address = Text.contains address "://" := by
  obtain ⟨-, about, data⟩ := not_or.mp h |>.imp_right not_or.mp
  simp [namesScheme, Bool.eq_false_iff.mpr about, Bool.eq_false_iff.mpr data]

/-- How the address of a secure host begins. -/
theorem secure_toList (address : String) :
    ("https://" ++ address).toList =
      ['h', 't', 't', 'p', 's'] ++ ([':', '/', '/'] ++ address.toList) := by
  simp [String.toList_append]

theorem trim_secure (raw : String) :
    Text.trim ("https://" ++ Text.trim raw) = "https://" ++ Text.trim raw := by
  have start : "https://".toList = ['h', 't', 't', 'p', 's', ':', '/', '/'] := by simp
  refine Text.trim_append_trim ?_ ?_ raw
  · rw [start]
    exact fun _ => ⟨rfl, rfl⟩
  · rw [start]
    exact List.cons_ne_nil _ _

theorem isAbsolute_secure (address : String) : IsAbsolute ("https://" ++ address) := by
  have isScheme : Web.IsScheme ['h', 't', 't', 'p', 's'] :=
    ⟨'h', ['t', 't', 'p', 's'], rfl, rfl, List.all_eq_true.mp rfl⟩
  exact .inl ⟨_, address.toList, isScheme, secure_toList address⟩

section

variable [Web.Library]

/-- What is answered for a text that stands for an address: the address, if it is a URL. -/
def answerFor (raw address : String) : Except BrowserError String :=
  match Web.Library.url address with
  | .ok _ => .ok address
  | .error reason => .error (.invalidUrl raw reason)

theorem answerFor_eq_ok_iff {raw address url : String} :
    answerFor raw address = .ok url ↔
      address = url ∧ ∃ u, Web.Library.url address = .ok u := by
  unfold answerFor
  split
  next u read => simp [read]
  next reason read => simp [read]

theorem normalizeUrl_eq (raw : String) :
    normalizeUrl raw = answerFor raw
      (if namesScheme (Text.trim raw) then Text.trim raw else "https://" ++ Text.trim raw) := rfl

theorem normalizeUrl_of_namesScheme {raw : String} (h : namesScheme (Text.trim raw) = true) :
    normalizeUrl raw = answerFor raw (Text.trim raw) := by
  rw [normalizeUrl_eq, if_pos h]

theorem normalizeUrl_of_not_namesScheme {raw : String}
    (h : namesScheme (Text.trim raw) = false) :
    normalizeUrl raw = answerFor raw ("https://" ++ Text.trim raw) := by
  rw [normalizeUrl_eq, if_neg (Bool.eq_false_iff.mp h)]

/-- An address with `://` somewhere but no scheme is refused. -/
theorem normalizeUrl_of_relative [Web.LawfulLibrary] {raw : String}
    (inside : Text.contains (Text.trim raw) "://" = true)
    (relative : ¬Web.BeginsWithScheme [':'] (Web.Url.stripped (Text.trim raw))) :
    normalizeUrl raw = .error (.invalidUrl raw "relative URL without a base") := by
  rw [normalizeUrl_of_namesScheme (namesScheme_of_contains inside), answerFor,
    Web.LawfulLibrary.relative relative]

/-- An address that was answered is answered for itself. -/
theorem normalizeUrl_idempotent {raw url : String} (h : normalizeUrl raw = .ok url) :
    normalizeUrl url = .ok url := by
  cases names : namesScheme (Text.trim raw) with
  | true =>
    rw [normalizeUrl_of_namesScheme names] at h
    obtain ⟨rfl, read⟩ := answerFor_eq_ok_iff.mp h
    have again : namesScheme (Text.trim (Text.trim raw)) = true := by
      rw [Text.trim_trim]
      exact names
    rw [normalizeUrl_of_namesScheme again, Text.trim_trim]
    exact answerFor_eq_ok_iff.mpr ⟨rfl, read⟩
  | false =>
    rw [normalizeUrl_of_not_namesScheme names] at h
    obtain ⟨rfl, read⟩ := answerFor_eq_ok_iff.mp h
    have again : namesScheme (Text.trim ("https://" ++ Text.trim raw)) = true := by
      rw [trim_secure]
      exact (isAbsolute_secure (Text.trim raw)).namesScheme
    rw [normalizeUrl_of_namesScheme again, trim_secure]
    exact answerFor_eq_ok_iff.mpr ⟨rfl, read⟩

/-- **Where a navigation goes.** An address that begins with a scheme is answered for itself, and one
in which no `://` occurs for the address of a secure host. An address that has `://` only further on
is answered for itself as well: it is refused if it has no scheme, and if its host, with a colon
behind it, looks like a scheme, it is taken as it is. An answer is answered for itself. -/
theorem normalizeUrl_destination (raw : String) :
    (IsAbsolute (Text.trim raw) → normalizeUrl raw = answerFor raw (Text.trim raw)) ∧
      (¬IsAbsolute (Text.trim raw) → Text.contains (Text.trim raw) "://" = false →
        normalizeUrl raw = answerFor raw ("https://" ++ Text.trim raw)) ∧
      (¬IsAbsolute (Text.trim raw) → Text.contains (Text.trim raw) "://" = true →
        normalizeUrl raw = answerFor raw (Text.trim raw) ∧
        (Web.LawfulLibrary →
          (¬Web.BeginsWithScheme [':'] (Web.Url.stripped (Text.trim raw)) →
            normalizeUrl raw = .error (.invalidUrl raw "relative URL without a base")) ∧
          ∀ host rest, Web.IsScheme host →
            Web.Url.stripped (Text.trim raw) = host ++ ':' :: rest →
            Web.SchemeKind.of (String.ofList host).toLower = .other → ¬['/', '/'] <+: rest →
            normalizeUrl raw = .ok (Text.trim raw))) ∧
      ∀ url, normalizeUrl raw = .ok url → normalizeUrl url = .ok url := by
  refine ⟨fun absolute => normalizeUrl_of_namesScheme absolute.namesScheme, fun bare plain => ?_,
    fun bare inside => ?_, fun url => normalizeUrl_idempotent⟩
  · exact normalizeUrl_of_not_namesScheme ((namesScheme_of_not_isAbsolute bare).trans plain)
  · have itself := normalizeUrl_of_namesScheme (namesScheme_of_contains inside)
    refine ⟨itself, fun lawful => ⟨normalizeUrl_of_relative inside, ?_⟩⟩
    intro host rest isScheme read other plain
    rw [itself]
    exact answerFor_eq_ok_iff.mpr ⟨rfl, lawful.other isScheme read other plain⟩

end

/-- A host with a query in which a URL stands, without a port and with one. -/
theorem normalizeUrl_destination_query :
    normalizeUrl "example.com/?next=http://x" =
        .error (.invalidUrl "example.com/?next=http://x" "relative URL without a base") ∧
      normalizeUrl "localhost:3000/?next=http://x" = .ok "localhost:3000/?next=http://x" := by
  constructor
  · have bare : ¬IsAbsolute (Text.trim "example.com/?next=http://x") := by decide +kernel
    have inside : Text.contains (Text.trim "example.com/?next=http://x") "://" = true := by
      decide +kernel
    have relative : ¬Web.BeginsWithScheme [':']
        (Web.Url.stripped (Text.trim "example.com/?next=http://x")) := by decide +kernel
    exact (((normalizeUrl_destination _).2.2.1 bare inside).2 inferInstance).1 relative
  · have bare : ¬IsAbsolute (Text.trim "localhost:3000/?next=http://x") := by decide +kernel
    have inside : Text.contains (Text.trim "localhost:3000/?next=http://x") "://" = true := by
      decide +kernel
    have host : Web.IsScheme "localhost".toList :=
      ⟨'l', "ocalhost".toList, by decide +kernel, rfl, List.all_eq_true.mp (by decide +kernel)⟩
    have taken := (((normalizeUrl_destination _).2.2.1 bare inside).2 inferInstance).2
      "localhost".toList "3000/?next=http://x".toList host (by decide +kernel) (by decide +kernel)
      (by decide +kernel)
    have trimmed : Text.trim "localhost:3000/?next=http://x" = "localhost:3000/?next=http://x" := by
      decide +kernel
    rwa [trimmed] at taken

/-- Not every address without a scheme is that of a secure host. -/
theorem not_normalizeUrl_secure :
    ¬∀ raw : String, ¬IsAbsolute (Text.trim raw) →
      (∃ u, Web.Library.url ("https://" ++ Text.trim raw) = .ok u) →
      normalizeUrl raw = .ok ("https://" ++ Text.trim raw) := by
  intro claimed
  have bare : ¬IsAbsolute (Text.trim "example.com/?next=http://x") := by decide +kernel
  have accepted :
      ∃ u, Web.Library.url ("https://" ++ Text.trim "example.com/?next=http://x") = .ok u := by
    have read :
        (Web.Library.url ("https://" ++ Text.trim "example.com/?next=http://x")).isOk = true := by
      decide +kernel
    revert read
    cases Web.Library.url ("https://" ++ Text.trim "example.com/?next=http://x") with
    | error reason => exact nofun
    | ok u => exact fun _ => ⟨u, rfl⟩
  have refused : normalizeUrl "example.com/?next=http://x" =
      .error (.invalidUrl "example.com/?next=http://x" "relative URL without a base") :=
    normalizeUrl_of_relative (by decide +kernel) (by decide +kernel)
  exact absurd ((claimed _ bare accepted).symm.trans refused) nofun

end Automation
