import Signet.Gateway.Service
import Signet.Proofs.Json.List
import Signet.Proofs.Token.RoundTrip

/-! What goes between clients and the gateway. Bodies mean what they were written for, and a token is
found where a client presents it, among whatever cookies of other names. -/

namespace Signet

open Json (Fills Reads decode_of_reads reads_record reads_text reads_texts)

namespace Credential

theorem reads_json (credential : Credential) : Reads read credential.json credential := by
  have fills : Fills members (none, none)
      [("identifier", Json.Print.text credential.identifier),
        ("secret", Json.Print.text credential.proof)]
      (some credential.identifier, some credential.proof) := by
    refine .asked _ rfl rfl ((reads_text _).bind fun _ => rfl) ?_
    exact .asked _ rfl rfl ((reads_text _).bind fun _ => rfl) (.none _)
  exact reads_record "a credential" fills rfl

end Credential

/-- The written form of a request to sign in means that request. -/
theorem SignIn.decode_json (request : SignIn) : Json.decode read request.json = .ok request := by
  have fills : Fills members (none, none)
      [("credential", request.credential.json),
        ("permissions", Json.Print.list (request.permissions.map Json.Print.text))]
      (some request.credential, some request.permissions) := by
    refine .asked _ rfl rfl (request.credential.reads_json.bind fun _ => rfl) ?_
    exact .asked _ rfl rfl ((reads_texts _).bind fun _ => rfl) (.none _)
  exact decode_of_reads (reads_record "a sign-in" fills rfl)

/-- The written form of a request to check permissions means that request. -/
theorem Authorization.decode_json (request : Authorization) :
    Json.decode read request.json = .ok request := by
  have fills : Fills
      [⟨"permissions", .defaulted, Option.isSome, fun _ => do
        return some (← Json.list Json.text)⟩] none
      [("permissions", Json.Print.list (request.permissions.map Json.Print.text))]
      (some request.permissions) :=
    .asked _ rfl rfl ((reads_texts _).bind fun _ => rfl) (.none _)
  exact decode_of_reads (reads_record "an authorization" fills rfl)

theorem Authorization.ofBody_json (request : Authorization) : ofBody request.json = .ok request := by
  have some : request.json ≠ [] := by simp [json, Json.Print.object]
  rw [ofBody, if_neg some, decode_json]

namespace Gateway

open Http (Header)
open Token (segments segments_of_not_mem segments_append)

/-- Bytes that tokens of header fields are made of: visible ones that separate nothing. -/
def isTokenByte (byte : UInt8) : Bool :=
  33 ≤ byte && byte < 127 && !(Text.utf8 "()<>@,;:\\\"/[]?=\x7b\x7d").contains byte

/-- A token as header fields know it, such as the name of a cookie. -/
def IsToken (bytes : Bytes) : Prop := bytes ≠ [] ∧ ∀ byte ∈ bytes, isTokenByte byte = true

/-- Wherever such a byte stands, it is passed on as it is and separates nothing. -/
structure Inert (byte : UInt8) : Prop where
  dark : isBlank byte = false
  readable : Header.isReadable byte = true
  legal : Header.isLegal byte = true
  small : byte < 128
  ne_semicolon : byte ≠ ascii ';'
  ne_equals : byte ≠ ascii '='

theorem inert_of_isTokenByte {byte : UInt8} (good : isTokenByte byte = true) : Inert byte := by
  have all : ∀ byte : BitVec 8, isTokenByte ⟨byte⟩ = true → isBlank ⟨byte⟩ = false ∧
      Header.isReadable ⟨byte⟩ = true ∧ Header.isLegal ⟨byte⟩ = true ∧
      (⟨byte⟩ : UInt8) < 128 ∧ (⟨byte⟩ : UInt8) ≠ ascii ';' ∧ (⟨byte⟩ : UInt8) ≠ ascii '=' := by
    decide +kernel
  obtain ⟨dark, readable, legal, small, semicolon, equals⟩ := all byte.toBitVec good
  exact ⟨dark, readable, legal, small, semicolon, equals⟩

theorem not_mem_token {bytes : Bytes} (good : IsToken bytes) :
    ascii ';' ∉ bytes ∧ ascii '=' ∉ bytes :=
  ⟨fun member => (inert_of_isTokenByte (good.2 _ member)).ne_semicolon rfl,
    fun member => (inert_of_isTokenByte (good.2 _ member)).ne_equals rfl⟩

theorem isReadable_of_token {bytes : Bytes} (good : ∀ byte ∈ bytes, isTokenByte byte = true) :
    bytes.all Header.isReadable = true :=
  List.all_eq_true.mpr fun byte member => (inert_of_isTokenByte (good byte member)).readable

theorem isLegal_of_token {bytes : Bytes} (good : ∀ byte ∈ bytes, isTokenByte byte = true) :
    bytes.all Header.isLegal = true :=
  List.all_eq_true.mpr fun byte member => (inert_of_isTokenByte (good byte member)).legal

/-- What is left between blanks. -/
theorem trimmed_append {front middle back : Bytes} (before : ∀ byte ∈ front, isBlank byte = true)
    (behind : ∀ byte ∈ back, isBlank byte = true)
    (first : ∀ byte, middle.head? = some byte → isBlank byte = false)
    (last : ∀ byte, middle.getLast? = some byte → isBlank byte = false) :
    trimmed (front ++ (middle ++ back)) = middle := by
  have reversed : ∀ byte ∈ back.reverse, isBlank byte = true :=
    fun byte member => behind byte (List.mem_reverse.mp member)
  unfold trimmed
  rw [List.dropWhile_append_of_pos before]
  cases middle with
  | nil =>
    have all : (back ++ []).dropWhile isBlank = [] := List.dropWhile_append_of_pos behind
    rw [List.append_nil] at all
    rw [List.nil_append, all]
    rfl
  | cons lead middle =>
    have dark := first lead rfl
    rw [List.cons_append, List.dropWhile_cons_of_neg (by simp [dark]), ← List.cons_append,
      List.reverse_append, List.dropWhile_append_of_pos reversed]
    have stays : (lead :: middle).reverse.dropWhile isBlank = (lead :: middle).reverse := by
      cases turned : (lead :: middle).reverse with
      | nil => rfl
      | cons end_ others =>
        have dark := last end_ (by rw [← List.head?_reverse, turned]; rfl)
        exact List.dropWhile_cons_of_neg (by simp [dark])
    rw [stays, List.reverse_reverse]

theorem trimmed_eq_self {bytes : Bytes}
    (first : ∀ byte, bytes.head? = some byte → isBlank byte = false)
    (last : ∀ byte, bytes.getLast? = some byte → isBlank byte = false) : trimmed bytes = bytes := by
  have none : ∀ byte ∈ ([] : Bytes), isBlank byte = true := by simp
  have whole := trimmed_append none none first last
  rwa [List.nil_append, List.append_nil] at whole

theorem trimmed_of_token {bytes : Bytes} (token : IsToken bytes) : trimmed bytes = bytes := by
  have dark : ∀ byte ∈ bytes, isBlank byte = false :=
    fun byte member => (inert_of_isTokenByte (token.2 byte member)).dark
  exact trimmed_eq_self (fun byte found => dark byte (List.mem_of_mem_head? found))
    fun byte found => dark byte (List.mem_of_mem_getLast? found)

theorem splitAt_append {separator : UInt8} {first : Bytes} (absent : separator ∉ first)
    (rest : Bytes) : splitAt separator (first ++ separator :: rest) = some (first, rest) := by
  have other : ∀ byte ∈ first, decide (byte ≠ separator) = true := by
    intro byte member
    exact decide_eq_true fun same => absent (same ▸ member)
  have found : (separator :: rest).dropWhile (fun byte => decide (byte ≠ separator)) =
      separator :: rest := List.dropWhile_cons_of_neg (by simp)
  have none : (separator :: rest).takeWhile (fun byte => decide (byte ≠ separator)) = [] :=
    List.takeWhile_cons_of_neg (by simp)
  rw [splitAt, List.dropWhile_append_of_pos other, found, List.takeWhile_append_of_pos other, none,
    List.append_nil]

theorem of_splitAt {separator : UInt8} {bytes first rest : Bytes}
    (split : splitAt separator bytes = some (first, rest)) :
    bytes = first ++ separator :: rest := by
  unfold splitAt at split
  split at split
  case h_1 none => cases split
  case h_2 lead others found =>
    have stopped := List.head?_dropWhile_not (fun byte => decide (byte ≠ separator)) bytes
    rw [found] at stopped
    have same : lead = separator := by simpa using stopped
    obtain ⟨rfl, rfl⟩ := Prod.mk.inj (Option.some.inj split)
    rw [← same] at found ⊢
    rw [← found, List.takeWhile_append_dropWhile]

theorem dropWhile_eq_trimmed_append (bytes : Bytes) : bytes.dropWhile isBlank =
    trimmed bytes ++ ((bytes.dropWhile isBlank).reverse.takeWhile isBlank).reverse := by
  have turned : ((bytes.dropWhile isBlank).reverse.takeWhile isBlank) ++
      ((bytes.dropWhile isBlank).reverse.dropWhile isBlank) = (bytes.dropWhile isBlank).reverse :=
    List.takeWhile_append_dropWhile
  rw [trimmed, ← List.reverse_append, turned, List.reverse_reverse]

/-- Blanks are all that is cut off. -/
theorem exists_trimmed (bytes : Bytes) : ∃ front back, (∀ byte ∈ front, isBlank byte = true) ∧
    (∀ byte ∈ back, isBlank byte = true) ∧ bytes = front ++ (trimmed bytes ++ back) := by
  refine ⟨bytes.takeWhile isBlank, _, List.all_eq_true.mp List.all_takeWhile, ?_,
    (dropWhile_eq_trimmed_append bytes) ▸ List.takeWhile_append_dropWhile.symm⟩
  intro byte member
  exact List.all_eq_true.mp List.all_takeWhile byte (List.mem_reverse.mp member)

theorem bearer_of_token {bytes : Bytes} (token : IsToken bytes) :
    bearer (Text.utf8 "Bearer " ++ bytes) = some bytes := by
  have kept := trimmed_of_token token
  have spelled : Text.utf8 "Bearer " = ascii 'B' :: Text.utf8 "earer " := by decide +kernel
  have words : Text.utf8 "Bearer " = Text.utf8 "Bearer" ++ [ascii ' '] := by decide +kernel
  have scheme : (Text.utf8 "Bearer").map lowered = Text.utf8 "bearer" := by decide +kernel
  have absent : ascii ' ' ∉ Text.utf8 "Bearer" := by decide +kernel
  have whole : trimmed (Text.utf8 "Bearer " ++ bytes) = Text.utf8 "Bearer " ++ bytes := by
    refine trimmed_eq_self ?_ ?_
    · intro byte found
      rw [spelled] at found
      obtain rfl := Option.some.inj found
      decide
    · intro byte found
      cases last : bytes.getLast? with
      | none => exact absurd (List.getLast?_eq_none_iff.mp last) token.1
      | some end_ =>
        rw [List.getLast?_append, last] at found
        obtain rfl := Option.some.inj found
        exact (inert_of_isTokenByte (token.2 _ (List.mem_of_getLast? last))).dark
  rw [bearer, whole, words, List.append_assoc, List.singleton_append, splitAt_append absent]
  simp only [scheme, kept, token.1, ne_eq, not_false_eq_true, and_self, ↓reduceIte]

/-- A piece of a cookie field that holds no cookie of this name. -/
def OtherThan (name piece : Bytes) : Prop :=
  ∀ pad rest, (∀ byte ∈ pad, isBlank byte = true) → piece ≠ pad ++ (name ++ ascii '=' :: rest)

theorem OtherThan.ne {name piece : Bytes} (other : OtherThan name piece) {cookie : Bytes × Bytes}
    (split : splitAt (ascii '=') (trimmed piece) = some cookie) : cookie.1 ≠ name := by
  rintro rfl
  obtain ⟨front, back, blank, -, whole⟩ := exists_trimmed piece
  rw [of_splitAt split, List.append_assoc, List.cons_append] at whole
  exact other front (cookie.2 ++ back) blank whole

/-- In the value of a cookie field, the first cookie of this name has this value. -/
def FirstCookie (name value field : Bytes) : Prop :=
  ∃ others left right later,
    segments (ascii ';') field = others ++ (left ++ ((name ++ ascii '=' :: value) ++ right)) :: later ∧
      (∀ byte ∈ left ++ right, isBlank byte = true) ∧ ∀ other ∈ others, OtherThan name other

section

variable {name value : Bytes} (named : IsToken name) (token : IsToken value)
include named token

/-- A cookie is found between blanks. -/
theorem trimmed_of_cookie {left right : Bytes}
    (blank : ∀ byte ∈ left ++ right, isBlank byte = true) :
    trimmed (left ++ ((name ++ ascii '=' :: value) ++ right)) = name ++ ascii '=' :: value := by
  have dark : ∀ byte ∈ name ++ ascii '=' :: value, isBlank byte = false := by
    intro byte member
    rcases List.mem_append.mp member with inName | behind
    · exact (inert_of_isTokenByte (named.2 byte inName)).dark
    rcases List.mem_cons.mp behind with rfl | inValue
    · decide
    · exact (inert_of_isTokenByte (token.2 byte inValue)).dark
  exact trimmed_append (fun byte member => blank byte (List.mem_append_left _ member))
    (fun byte member => blank byte (List.mem_append_right _ member))
    (fun byte found => dark byte (List.mem_of_mem_head? found))
    fun byte found => dark byte (List.mem_of_mem_getLast? found)

/-- The pieces of a field that begins with a cookie. -/
theorem segments_cookie (rest : Bytes) :
    segments (ascii ';') ((name ++ ascii '=' :: value) ++ ascii ';' :: rest) =
      (name ++ ascii '=' :: value) :: segments (ascii ';') rest := by
  have other : ascii ';' ≠ ascii '=' := by decide
  refine segments_append ?_ rest
  simp [(not_mem_token named).1, (not_mem_token token).1, other]

theorem firstCookie_append (rest : Bytes) :
    FirstCookie name value ((name ++ ascii '=' :: value) ++ ascii ';' :: rest) := by
  refine ⟨[], [], [], segments (ascii ';') rest, ?_, by simp, by simp⟩
  rw [segments_cookie named token, List.nil_append, List.append_nil]
  rfl

theorem find?_cookies {field : Bytes} (held : FirstCookie name value field) :
    (cookies field).find? (fun cookie => cookie.1 = name && !cookie.2.isEmpty) =
      some (name, value) := by
  obtain ⟨others, left, right, later, pieces, blank, apart⟩ := held
  have absent := (not_mem_token named).2
  have full : value.isEmpty = false := by simpa using token.1
  rw [cookies, pieces, List.filterMap_append, List.find?_append]
  -- The pieces before it hold cookies of other names, if any, so the search gets this far.
  have none : (others.filterMap fun pair => splitAt (ascii '=') (trimmed pair)).find?
      (fun cookie => cookie.1 = name && !cookie.2.isEmpty) = Option.none := by
    rw [List.find?_eq_none]
    intro cookie member
    obtain ⟨piece, among, split⟩ := List.mem_filterMap.mp member
    simp [(apart piece among).ne split]
  rw [none, Option.none_or, List.filterMap_cons, trimmed_of_cookie named token blank,
    splitAt_append absent]
  simp [full]

end

/-- Numbers are written with digits. -/
theorem isTokenByte_of_mem_number {number : UInt64} {byte : UInt8}
    (member : byte ∈ Text.utf8 (toString number)) : isTokenByte byte = true := by
  have digits : ∀ byte : BitVec 8, (48 : UInt8) ≤ ⟨byte⟩ → (⟨byte⟩ : UInt8) ≤ 57 →
      isTokenByte ⟨byte⟩ = true := by decide +kernel
  have spelled : Text.utf8 (toString number) =
      (Nat.toDigits 10 number.toNat).flatMap String.utf8EncodeChar := by
    show (String.ofList (Nat.toDigits 10 number.toNat)).toByteArray.data.toList = _
    simp [String.toByteArray_ofList, List.utf8Encode]
  rw [spelled] at member
  obtain ⟨char, among, inside⟩ := List.mem_flatMap.mp member
  have digit := Nat.isDigit_of_mem_toDigits (by decide) (by decide) among
  simp only [Char.isDigit, Bool.and_eq_true, decide_eq_true_eq, ge_iff_le] at digit
  have one : char.utf8Size = 1 := by
    rw [Char.utf8Size_eq_one_iff]
    exact UInt32.le_trans digit.2 (by decide)
  rw [String.utf8EncodeChar_eq_singleton one, List.mem_singleton] at inside
  obtain ⟨low, high⟩ := digit
  have low : 48 ≤ char.val.toNat := UInt32.le_iff_toNat_le.mp low
  have high : char.val.toNat ≤ 57 := UInt32.le_iff_toNat_le.mp high
  have code : byte.toNat = char.val.toNat := by
    rw [inside, UInt32.toNat_toUInt8]
    omega
  exact digits byte.toBitVec (UInt8.le_iff_toNat_le.mpr (code ▸ low))
    (UInt8.le_iff_toNat_le.mpr (code ▸ high))

theorem utf8_sessionCookie (gateway : Gateway) (token : String) :
    Text.utf8 (gateway.sessionCookie token) =
      (Text.utf8 gateway.authority.settings.cookieName ++ ascii '=' :: Text.utf8 token) ++
        ascii ';' :: (Text.utf8 " Path=/; Max-Age=" ++
          (Text.utf8 (toString gateway.authority.settings.tokenLifetime) ++
            Text.utf8 "; HttpOnly; Secure; SameSite=Strict")) := by
  have equals : Text.utf8 "=" = [ascii '='] := by decide +kernel
  have lead : Text.utf8 "; Path=/; Max-Age=" = ascii ';' :: Text.utf8 " Path=/; Max-Age=" := by
    decide +kernel
  unfold sessionCookie
  have same : ∀ text : String, toString text = text := fun _ => rfl
  simp only [Text.utf8_append, same, equals, lead, List.append_assoc, List.cons_append,
    List.nil_append]

/-- The cookie that holds a token can be set. -/
theorem isLegal_sessionCookie {gateway : Gateway} {token : String}
    (named : IsToken (Text.utf8 gateway.authority.settings.cookieName))
    (plain : IsToken (Text.utf8 token)) :
    (Text.utf8 (gateway.sessionCookie token)).all Header.isLegal = true := by
  have lifetime : (Text.utf8 (toString gateway.authority.settings.tokenLifetime)).all
      Header.isLegal = true := isLegal_of_token fun _ => isTokenByte_of_mem_number
  have middle : (Text.utf8 " Path=/; Max-Age=").all Header.isLegal = true := by decide +kernel
  have last : (Text.utf8 "; HttpOnly; Secure; SameSite=Strict").all Header.isLegal = true := by
    decide +kernel
  have marks : Header.isLegal (ascii '=') = true ∧ Header.isLegal (ascii ';') = true := by decide
  simp only [utf8_sessionCookie, List.all_append, List.all_cons, isLegal_of_token named.2,
    isLegal_of_token plain.2, lifetime, middle, last, marks, Bool.and_self]

/-- So can the one that takes its place. -/
theorem isLegal_clearedCookie {gateway : Gateway}
    (named : IsToken (Text.utf8 gateway.authority.settings.cookieName)) :
    (Text.utf8 gateway.clearedCookie).all Header.isLegal = true := by
  have last : (Text.utf8 "=; Path=/; Max-Age=0; HttpOnly; Secure; SameSite=Strict").all
      Header.isLegal = true := by decide +kernel
  have spelled : gateway.clearedCookie = gateway.authority.settings.cookieName ++
      "=; Path=/; Max-Age=0; HttpOnly; Secure; SameSite=Strict" := rfl
  rw [spelled, Text.utf8_append, List.all_append, isLegal_of_token named.2, last]
  rfl

/-- The value of the cookie that holds a token is that token. -/
theorem head?_cookies_sessionCookie {gateway : Gateway} {token : String}
    (named : IsToken (Text.utf8 gateway.authority.settings.cookieName))
    (plain : IsToken (Text.utf8 token)) :
    (cookies (Text.utf8 (gateway.sessionCookie token))).head? =
      some (Text.utf8 gateway.authority.settings.cookieName, Text.utf8 token) := by
  have none : ∀ byte ∈ ([] : Bytes) ++ [], isBlank byte = true := by simp
  have cut := trimmed_of_cookie named plain none
  rw [List.append_nil, List.nil_append] at cut
  rw [utf8_sessionCookie, cookies, segments_cookie named plain, List.filterMap_cons, cut,
    splitAt_append (not_mem_token named).2]
  rfl

/-- Where a client presents a token: in the first authorization field, or else, if there is none, in a
cookie field as the first cookie of this name. -/
inductive Presents (name token : String) : List Header → Prop where
  | bearer {front back : List Header} {header : Header}
      (first : ∀ other ∈ front, other.hasName "authorization" = false)
      (named : header.hasName "authorization" = true)
      (value : header.value = Text.utf8 ("Bearer " ++ token)) :
      Presents name token (front ++ header :: back)
  | cookie {front back : List Header} {header : Header}
      (none : ∀ other ∈ front ++ header :: back, other.hasName "authorization" = false)
      (first : ∀ other ∈ front, other.hasName "cookie" = true →
        ∀ piece ∈ segments (ascii ';') other.value, OtherThan (Text.utf8 name) piece)
      (named : header.hasName "cookie" = true)
      (readable : header.value.all Header.isReadable = true)
      (holds : FirstCookie (Text.utf8 name) (Text.utf8 token) header.value) :
      Presents name token (front ++ header :: back)

theorem sessionToken_of_first {name value : String} {front back : List Header} {header : Header}
    (named : IsToken (Text.utf8 name)) (token : IsToken (Text.utf8 value))
    (first : ∀ other ∈ front, other.hasName "cookie" = true →
      ∀ piece ∈ segments (ascii ';') other.value, OtherThan (Text.utf8 name) piece)
    (cookie : header.hasName "cookie" = true)
    (readable : header.value.all Header.isReadable = true)
    (holds : FirstCookie (Text.utf8 name) (Text.utf8 value) header.value) :
    sessionToken name (front ++ header :: back) = some (Text.utf8 value) := by
  have none : (((front.filter (·.hasName "cookie")).filterMap (·.readable?)).flatMap cookies).find?
      (fun cookie => cookie.1 = Text.utf8 name && !cookie.2.isEmpty) = Option.none := by
    rw [List.find?_eq_none]
    intro found member
    obtain ⟨field, among, inside⟩ := List.mem_flatMap.mp member
    obtain ⟨other, early, read⟩ := List.mem_filterMap.mp among
    obtain ⟨early, isCookie⟩ := List.mem_filter.mp early
    obtain ⟨piece, cut, split⟩ := List.mem_filterMap.mp inside
    have same : other.value = field := by
      unfold Header.readable? at read
      split at read
      · exact Option.some.inj read
      · cases read
    have apart : OtherThan (Text.utf8 name) piece := first other early isCookie piece (same ▸ cut)
    simp [apart.ne split]
  have read : header.readable? = some header.value := if_pos readable
  simp only [sessionToken, List.filter_append, List.filterMap_append, List.flatMap_append,
    List.find?_append, none, Option.none_or, List.filter_cons, cookie, ↓reduceIte,
    List.filterMap_cons, read, List.flatMap_cons, find?_cookies named token holds, Option.some_or,
    Option.map_some]

/-- The token that a client presents is found, wherever it is presented. -/
theorem bearerToken_of_presents {gateway : Gateway} {token : String} {headers : List Header}
    (named : IsToken (Text.utf8 gateway.authority.settings.cookieName))
    (plain : IsToken (Text.utf8 token))
    (presents : Presents gateway.authority.settings.cookieName token headers) :
    gateway.bearerToken headers = some token := by
  have again : Text.ofAscii (Text.utf8 token) = token :=
    Text.utf8_injective (Text.utf8_ofAscii fun byte member =>
      (inert_of_isTokenByte (plain.2 byte member)).small)
  cases presents with
  | @bearer front back header first named value =>
    have found : (front ++ header :: back).find? (·.hasName "authorization") = some header := by
      have none : front.find? (·.hasName "authorization") = Option.none :=
        List.find?_eq_none.mpr fun other member => by simp [first other member]
      rw [List.find?_append, none, Option.none_or, List.find?_cons, named]
    have readable : (Text.utf8 ("Bearer " ++ token)).all Header.isReadable = true := by
      rw [Text.utf8_append, List.all_append, Bool.and_eq_true]
      exact ⟨by decide +kernel, isReadable_of_token plain.2⟩
    have read : header.readable? = some (Text.utf8 ("Bearer " ++ token)) := by
      rw [Header.readable?, value, if_pos readable]
    simp only [bearerToken, found, Option.bind_some, read, Text.utf8_append, bearer_of_token plain,
      Option.some_or, Option.map_some, again]
  | @cookie front back header none first cookie readable holds =>
    have absent : (front ++ header :: back).find? (·.hasName "authorization") = Option.none :=
      List.find?_eq_none.mpr fun other member => by simp [none other member]
    simp only [bearerToken, absent, Option.bind_none, Option.none_or,
      sessionToken_of_first named plain first cookie readable holds, Option.map_some, again]

/-- A token that has been written fits in a header field. -/
theorem isToken_of_encode {codec : Token.Codec} {claims : Claims} {secret : Secret} {token : String}
    (encoded : codec.encode claims secret = .ok token) : IsToken (Text.utf8 token) := by
  have symbols : ∀ value : Fin 64, isTokenByte (Base64Url.symbol value) = true := by decide +kernel
  have written : ∀ {bytes : Bytes} {byte : UInt8}, byte ∈ Base64Url.encode bytes →
      isTokenByte byte = true := by
    intro bytes byte member
    rw [Base64Url.encode_eq_map_symbol] at member
    obtain ⟨value, inside, rfl⟩ := List.mem_map.mp member
    exact symbols ⟨value, Base64Url.sextets_small bytes value inside⟩
  obtain ⟨-, rfl⟩ := Token.Codec.encode_eq_ok_iff.mp encoded
  have good : ∀ byte ∈ (codec.parts claims secret).message ++
      Token.point :: (codec.parts claims secret).signature, isTokenByte byte = true := by
    intro byte member
    simp only [Token.Parts.message, List.mem_append, List.mem_cons] at member
    rcases member with (header | rfl | payload) | rfl | signature
    · exact written header
    · decide +kernel
    · exact written payload
    · decide +kernel
    · exact written signature
  have spelled : Text.utf8 (Token.ofParts (codec.parts claims secret)) = _ :=
    Text.utf8_ofAscii fun byte member => (inert_of_isTokenByte (good byte member)).small
  rw [spelled]
  exact ⟨by simp, good⟩

end Gateway
end Signet
