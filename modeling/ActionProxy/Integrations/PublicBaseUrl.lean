import ActionProxy.Foundation.TextScan

/-!
The base URL that links in approval mails start with. A URL that was normalised once is
accepted again and stays as it is.
-/

namespace ActionProxy

structure UrlParts where
  protocol : String
  username : String
  password : String
  host : String
  pathname : String

/-- `replace(/\/+$/, '')`. -/
def withoutTrailingSlashes (text : String) : String :=
  String.ofList (text.toList.rdropWhile (fun char => char == '/'))

def UrlParts.baseText (parts : UrlParts) : String :=
  parts.protocol ++ "//" ++ parts.host ++ withoutTrailingSlashes parts.pathname

/-- The parts of an HTTP URL that names no user. -/
def UrlParts.IsPublic (parts : UrlParts) : Prop :=
  (parts.protocol = "http:" ∨ parts.protocol = "https:") ∧ parts.username = "" ∧ parts.password = ""

/-- How `new URL` treats what it has printed: the printed URL has no blank, and it is parsed to the
same parts, also without the slashes its path ends with. -/
structure StandardUrl (parseUrl : String → Option UrlParts) : Prop where
  printed : ∀ text parts, parseUrl text = some parts → parts.IsPublic →
    ∀ char ∈ parts.baseText.toList, TextScan.isSpace char = false ∧ char ≠ '?' ∧ char ≠ '#'
  reparsed : ∀ text parts, parseUrl text = some parts → parts.IsPublic →
    parseUrl parts.baseText = some { parts with
      pathname := if withoutTrailingSlashes parts.pathname = "" then "/"
        else withoutTrailingSlashes parts.pathname }

structure EmailPublicBaseUrlOptions where
  label : Option String
  requireHttps : Bool

def EmailPublicBaseUrlOptions.default : EmailPublicBaseUrlOptions :=
  { label := none, requireHttps := false }

section

variable (parseUrl : String → Option UrlParts)

def normalizeEmailPublicBaseUrl (value : Option String)
    (options : EmailPublicBaseUrlOptions) : Except String (Option String) :=
  let label := options.label.getD "Email approval review URL"
  match value.bind TextScan.content with
  | none => .ok none
  | some trimmed =>
      match parseUrl trimmed with
      | none => .error (label ++ " must be an absolute HTTP or HTTPS URL.")
      | some parsed =>
          if parsed.protocol ≠ "http:" ∧ parsed.protocol ≠ "https:" then
            .error (label ++ " must use HTTP or HTTPS.")
          else if options.requireHttps ∧ parsed.protocol ≠ "https:" then
            .error (label ++ " must use HTTPS.")
          else if parsed.username ≠ "" ∨ parsed.password ≠ "" then
            .error (label ++ " must not contain embedded credentials.")
          else if '?' ∈ trimmed.toList ∨ '#' ∈ trimmed.toList then
            .error (label ++ " must not contain a query string or fragment.")
          else .ok (some parsed.baseText)

def safeEmailPublicBaseUrl (value : Option String) : Option String :=
  match normalizeEmailPublicBaseUrl parseUrl value .default with
  | .ok url => url
  | .error _ => none

end

theorem withoutTrailingSlashes_again (text : String) :
    withoutTrailingSlashes (withoutTrailingSlashes text) = withoutTrailingSlashes text := by
  unfold withoutTrailingSlashes
  rw [String.toList_ofList, List.rdropWhile_idempotent]

theorem content_of_unspaced {text : String} (unspaced : ∀ char ∈ text.toList, TextScan.isSpace char = false)
    (nonempty : text ≠ "") : TextScan.content text = some text := by
  have whole : TextScan.trim text = text := by
    unfold TextScan.trim TextScan.trimChars
    rw [List.dropWhile_eq_self_iff.mpr, List.rdropWhile_eq_self_iff.mpr, String.ofList_toList]
    · intro some
      simpa using unspaced _ (List.getLast_mem some)
    · intro positive
      simpa using unspaced _ (List.getElem_mem positive)
  rw [TextScan.content, whole, if_neg nonempty]

theorem normalizeEmailPublicBaseUrl_ok {parseUrl : String → Option UrlParts}
    {value url : Option String} {options : EmailPublicBaseUrlOptions}
    (accepted : normalizeEmailPublicBaseUrl parseUrl value options = .ok url) :
    url = none ∨ ∃ text parts, parseUrl text = some parts ∧ parts.IsPublic ∧
      url = some parts.baseText ∧ (options.requireHttps = true → parts.protocol = "https:") := by
  unfold normalizeEmailPublicBaseUrl at accepted
  dsimp only at accepted
  cases content : value.bind TextScan.content with
  | none =>
      rw [content] at accepted
      cases accepted
      exact .inl rfl
  | some trimmed =>
      rw [content] at accepted
      cases parsed : parseUrl trimmed with
      | none =>
          simp only [parsed] at accepted
          cases accepted
      | some parts =>
          simp only [parsed] at accepted
          split at accepted
          · cases accepted
          · rename_i http
            split at accepted
            · cases accepted
            · rename_i secure
              split at accepted
              · cases accepted
              · rename_i anonymous
                split at accepted
                · cases accepted
                · cases accepted
                  rw [not_or, not_not, not_not] at anonymous
                  refine .inr ⟨trimmed, parts, parsed, ⟨by tauto, anonymous⟩, rfl, by tauto⟩

theorem normalizeEmailPublicBaseUrl_again {parseUrl : String → Option UrlParts}
    (standard : StandardUrl parseUrl) {value url : Option String}
    {options : EmailPublicBaseUrlOptions}
    (accepted : normalizeEmailPublicBaseUrl parseUrl value options = .ok url) :
    normalizeEmailPublicBaseUrl parseUrl url options = .ok url := by
  obtain rfl | ⟨text, parts, parsed, isPublic, rfl, secure⟩ :=
    normalizeEmailPublicBaseUrl_ok accepted
  · rfl
  · have plain := standard.printed text parts parsed isPublic
    have nonempty : parts.baseText ≠ "" := by
      intro empty
      have lengths := congrArg (fun text => text.toList.length) empty
      simp [UrlParts.baseText] at lengths
    have content : TextScan.content parts.baseText = some parts.baseText :=
      content_of_unspaced (fun char member => (plain char member).1) nonempty
    have query : ¬ ('?' ∈ parts.baseText.toList ∨ '#' ∈ parts.baseText.toList) := by
      rintro (mark | mark)
      · exact (plain _ mark).2.1 rfl
      · exact (plain _ mark).2.2 rfl
    have path : withoutTrailingSlashes
        (if withoutTrailingSlashes parts.pathname = "" then "/"
          else withoutTrailingSlashes parts.pathname) = withoutTrailingSlashes parts.pathname := by
      split
      · rename_i root
        rw [root]
        decide
      · exact withoutTrailingSlashes_again parts.pathname
    unfold normalizeEmailPublicBaseUrl
    dsimp only
    rw [Option.bind_some, content]
    dsimp only
    rw [standard.reparsed text parts parsed isPublic]
    dsimp only
    rw [if_neg (by rcases isPublic.1 with http | https <;> simp [*]),
      if_neg (fun both => both.2 (secure both.1)), if_neg (by simp [isPublic.2]), if_neg query]
    unfold UrlParts.baseText
    dsimp only
    rw [path]

end ActionProxy
