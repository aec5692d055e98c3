import Signet.Proofs.Gateway.Privilege
import Signet.Proofs.Gateway.Wire

/-! Which token a client presents: that of the first authorization field if it bears one, and else
that of the first cookie of the session's name. The cookies that the gateway sets are found again,
and the one that it clears is found no more. -/

namespace Signet.Gateway

open Http (Header)
open Token (segments segments_of_not_mem segments_append)

/-- No blank stands at either end. -/
def Bare (bytes : Bytes) : Prop :=
  (∀ byte, bytes.head? = some byte → isBlank byte = false) ∧
    ∀ byte, bytes.getLast? = some byte → isBlank byte = false

/-- The same with blanks around it, or with none. -/
def Around (middle whole : Bytes) : Prop :=
  ∃ left right, (∀ byte ∈ left ++ right, isBlank byte = true) ∧ whole = left ++ (middle ++ right)

theorem bare_trimmed (bytes : Bytes) : Bare (trimmed bytes) := by
  constructor
  · intro byte found
    have first : (bytes.dropWhile isBlank).head? = some byte := by
      rw [dropWhile_eq_trimmed_append, List.head?_append, found]
      rfl
    have dark := List.head?_dropWhile_not isBlank bytes
    rwa [first] at dark
  · intro byte found
    rw [trimmed, List.getLast?_reverse] at found
    have dark := List.head?_dropWhile_not isBlank (bytes.dropWhile isBlank).reverse
    rwa [found] at dark

theorem trimmed_eq_iff {middle whole : Bytes} :
    trimmed whole = middle ↔ Bare middle ∧ Around middle whole := by
  constructor
  · rintro rfl
    obtain ⟨left, right, before, behind, cut⟩ := exists_trimmed whole
    refine ⟨bare_trimmed whole, left, right, fun byte member => ?_, cut⟩
    exact (List.mem_append.mp member).elim (before byte) (behind byte)
  · rintro ⟨⟨first, last⟩, left, right, blank, rfl⟩
    exact trimmed_append (fun byte member => blank byte (List.mem_append_left _ member))
      (fun byte member => blank byte (List.mem_append_right _ member)) first last

theorem splitAt_eq_some_iff {separator : UInt8} {bytes first rest : Bytes} :
    splitAt separator bytes = some (first, rest) ↔
      separator ∉ first ∧ bytes = first ++ separator :: rest := by
  constructor
  · intro split
    refine ⟨fun member => ?_, of_splitAt split⟩
    unfold splitAt at split
    split at split
    case h_1 => cases split
    case h_2 =>
      obtain ⟨rfl, -⟩ := Prod.mk.inj (Option.some.inj split)
      have other := List.all_eq_true.mp List.all_takeWhile _ member
      simp at other
  · rintro ⟨absent, rfl⟩
    exact splitAt_append absent rest

theorem readable?_eq_some_iff {header : Header} {value : Bytes} :
    header.readable? = some value ↔
      header.value.all Header.isReadable = true ∧ header.value = value := by
  rw [Header.readable?]
  split
  case isTrue readable => simp [readable]
  case isFalse not => simp [not]

theorem isReadable_of_isBlank {byte : UInt8} (blank : isBlank byte = true) :
    Header.isReadable byte = true := by
  have all : ∀ byte : BitVec 8, isBlank ⟨byte⟩ = true → Header.isReadable ⟨byte⟩ = true := by
    decide +kernel
  exact all byte.toBitVec blank

theorem small_of_isReadable {byte : UInt8} (readable : Header.isReadable byte = true) :
    byte < 128 := by
  have all : ∀ byte : BitVec 8, Header.isReadable ⟨byte⟩ = true → (⟨byte⟩ : UInt8) < 128 := by
    decide +kernel
  exact all byte.toBitVec readable

/-- The value of an authorization field bears this text: behind "bearer" in any letter case, a
space, and any blanks. -/
def Bearing (value text : Bytes) : Prop :=
  ∃ scheme pad, Around (scheme ++ ascii ' ' :: (pad ++ text)) value ∧
    scheme.map lowered = Text.utf8 "bearer" ∧ (∀ byte ∈ pad, isBlank byte = true) ∧
      text ≠ [] ∧ Bare text ∧ text.all Header.isReadable = true

theorem of_lowered {scheme : Bytes} (named : scheme.map lowered = Text.utf8 "bearer") {byte : UInt8}
    (member : byte ∈ scheme) :
    byte ≠ ascii ' ' ∧ isBlank byte = false ∧ Header.isReadable byte = true := by
  have all : ∀ byte : BitVec 8, lowered ⟨byte⟩ ∈ Text.utf8 "bearer" → (⟨byte⟩ : UInt8) ≠ ascii ' ' ∧
      isBlank ⟨byte⟩ = false ∧ Header.isReadable ⟨byte⟩ = true := by decide +kernel
  exact all byte.toBitVec (named ▸ List.mem_map_of_mem member)

theorem Bearing.readable_text {value text : Bytes} (bearing : Bearing value text) :
    ∀ byte ∈ text, Header.isReadable byte = true := by
  obtain ⟨scheme, pad, -, -, -, -, -, readable⟩ := bearing
  exact List.all_eq_true.mp readable

theorem Bearing.readable {value text : Bytes} (bearing : Bearing value text) :
    value.all Header.isReadable = true := by
  obtain ⟨scheme, pad, ⟨left, right, blank, rfl⟩, named, inner, -, -, readable⟩ := bearing
  have space : Header.isReadable (ascii ' ') = true := by decide
  have blanks : ∀ byte ∈ left ++ right, Header.isReadable byte = true :=
    fun byte member => isReadable_of_isBlank (blank byte member)
  have padding : ∀ byte ∈ pad, Header.isReadable byte = true :=
    fun byte member => isReadable_of_isBlank (inner byte member)
  have letters : ∀ byte ∈ scheme, Header.isReadable byte = true :=
    fun byte member => (of_lowered named member).2.2
  rw [List.all_eq_true] at readable ⊢
  simp only [List.mem_append, List.mem_cons] at blanks ⊢
  grind

/-- From the scheme to the end of the text, nothing is cut off. -/
theorem bare_of_lowered {scheme text : Bytes} (named : scheme.map lowered = Text.utf8 "bearer")
    (some : text ≠ []) (bare : Bare text) (pad : Bytes) :
    Bare (scheme ++ ascii ' ' :: (pad ++ text)) := by
  constructor
  · intro byte found
    cases scheme with
    | nil => exact absurd named (by decide +kernel)
    | cons lead others =>
      obtain rfl := Option.some.inj found
      exact (of_lowered named (List.mem_cons_self ..)).2.1
  · intro byte found
    have whole : scheme ++ ascii ' ' :: (pad ++ text) = (scheme ++ ascii ' ' :: pad) ++ text := by
      simp
    cases last : text.getLast? with
    | none => exact absurd (List.getLast?_eq_none_iff.mp last) some
    | some end_ =>
      rw [whole, List.getLast?_append, last] at found
      exact bare.2 byte (last.trans found)

theorem bearer_eq_some_iff {value text : Bytes} (readable : value.all Header.isReadable = true) :
    bearer value = some text ↔ Bearing value text := by
  constructor
  · intro borne
    unfold bearer at borne
    split at borne
    case h_2 => cases borne
    case h_1 scheme rest cut =>
      split at borne
      case isFalse => cases borne
      case isTrue good =>
        obtain rfl := Option.some.inj borne
        obtain ⟨left, right, before, behind, whole⟩ := exists_trimmed value
        obtain ⟨pad, tail, padding, tailing, others⟩ := exists_trimmed rest
        rw [of_splitAt cut, others] at whole
        have blank : ∀ byte ∈ left ++ (tail ++ right), isBlank byte = true := by
          simp only [List.mem_append]
          rintro byte (member | member | member)
          · exact before byte member
          · exact tailing byte member
          · exact behind byte member
        refine ⟨scheme, pad, ⟨left, tail ++ right, blank, by simpa using whole⟩, good.1, padding,
          good.2, bare_trimmed rest, List.all_eq_true.mpr fun byte member => ?_⟩
        refine List.all_eq_true.mp readable byte ?_
        rw [whole]
        simp [member]
  · rintro ⟨scheme, pad, around, named, padding, some, bare, -⟩
    have absent : ascii ' ' ∉ scheme := fun member => (of_lowered named member).1 rfl
    have whole : trimmed value = scheme ++ ascii ' ' :: (pad ++ text) :=
      trimmed_eq_iff.mpr ⟨bare_of_lowered named some bare pad, around⟩
    have inner : trimmed (pad ++ text) = text :=
      trimmed_eq_iff.mpr ⟨bare, pad, [], by simpa using padding, by simp⟩
    rw [bearer, whole, splitAt_append absent]
    simp only [named, inner, some, ne_eq, not_false_eq_true, and_self, ↓reduceIte]

/-- The first authorization field bears this text. -/
def Authorizes (headers : List Header) (text : String) : Prop :=
  ∃ header, headers.find? (·.hasName "authorization") = some header ∧
    Bearing header.value (Text.utf8 text)

/-- What the first authorization field bears, if it is text. -/
theorem borne_eq_some_iff {headers : List Header} {text : Bytes} :
    ((headers.find? (·.hasName "authorization")).bind (·.readable?)).bind bearer = some text ↔
      ∃ header, headers.find? (·.hasName "authorization") = some header ∧
        Bearing header.value text := by
  simp only [Option.bind_eq_some_iff, readable?_eq_some_iff]
  constructor
  · rintro ⟨value, ⟨header, found, readable, rfl⟩, borne⟩
    exact ⟨header, found, (bearer_eq_some_iff readable).mp borne⟩
  · rintro ⟨header, found, bearing⟩
    exact ⟨header.value, ⟨header, found, bearing.readable, rfl⟩,
      (bearer_eq_some_iff bearing.readable).mpr bearing⟩

/-- The pieces between semicolons of the cookie fields that are text. -/
def pieces (headers : List Header) : List Bytes :=
  ((headers.filter (·.hasName "cookie")).filterMap (·.readable?)).flatMap (segments (ascii ';'))

/-- The piece holds a cookie of this name, whose value is this and not empty. -/
def Holds (name value piece : Bytes) : Prop :=
  ascii '=' ∉ name ∧ Bare (name ++ ascii '=' :: value) ∧
    Around (name ++ ascii '=' :: value) piece ∧ value ≠ []

/-- The first of the pieces that holds a cookie of this name holds this value. -/
def FirstHolds (name value : Bytes) (pieces : List Bytes) : Prop :=
  ∃ before piece after, pieces = before ++ piece :: after ∧ Holds name value piece ∧
    ∀ other ∈ before, ∀ found, ¬ Holds name found other

/-- Whether this is a cookie of a name, and its value is not empty. -/
def isWanted (name : Bytes) (cookie : Bytes × Bytes) : Bool :=
  cookie.1 = name && !cookie.2.isEmpty

/-- The cookie in a piece. -/
def cookie? (piece : Bytes) : Option (Bytes × Bytes) := splitAt (ascii '=') (trimmed piece)

section

variable {name value : Bytes} {headers : List Header}

theorem holds_iff {piece : Bytes} :
    Holds name value piece ↔ cookie? piece = some (name, value) ∧ value ≠ [] := by
  rw [cookie?, splitAt_eq_some_iff, trimmed_eq_iff, Holds]
  simp only [and_assoc]

theorem isWanted_iff {cookie : Bytes × Bytes} :
    isWanted name cookie = true ↔ cookie.1 = name ∧ cookie.2 ≠ [] := by
  simp [isWanted]

theorem any_isWanted_iff {piece : Bytes} :
    (cookie? piece).any (isWanted name) = true ↔ ∃ value, Holds name value piece := by
  simp only [holds_iff, Option.any_eq_true, isWanted_iff]
  constructor
  · rintro ⟨⟨_, value⟩, held, rfl, some⟩
    exact ⟨value, held, some⟩
  · rintro ⟨value, held, some⟩
    exact ⟨(name, value), held, rfl, some⟩

theorem sessionToken_eq (name : String) (headers : List Header) : sessionToken name headers =
    (((pieces headers).filterMap cookie?).find? (isWanted (Text.utf8 name))).map Prod.snd := by
  rw [pieces, List.filterMap_flatMap]
  rfl

theorem sessionToken_eq_some_iff {name : String} : sessionToken name headers = some value ↔
    FirstHolds (Text.utf8 name) value (pieces headers) := by
  rw [sessionToken_eq, List.find?_filterMap]
  simp only [Option.map_eq_some_iff, Option.bind_eq_some_iff, List.find?_eq_some_iff_append]
  constructor
  · rintro ⟨cookie, ⟨piece, ⟨wanted, before, after, same, none⟩, held⟩, rfl⟩
    obtain ⟨value, holds⟩ := any_isWanted_iff.mp wanted
    obtain rfl := Option.some.inj (held.symm.trans (holds_iff.mp holds).1)
    refine ⟨before, piece, after, same, holds, fun other member found another => ?_⟩
    have unwanted := none other member
    rw [any_isWanted_iff.mpr ⟨found, another⟩] at unwanted
    cases unwanted
  · rintro ⟨before, piece, after, same, holds, none⟩
    refine ⟨(Text.utf8 name, value), ⟨piece, ⟨any_isWanted_iff.mpr ⟨value, holds⟩, before, after,
      same, fun other member => ?_⟩, (holds_iff.mp holds).1⟩, rfl⟩
    rw [Bool.not_eq_true', Bool.eq_false_iff]
    intro wanted
    obtain ⟨found, another⟩ := any_isWanted_iff.mp wanted
    exact none other member found another

theorem sessionToken_eq_none_iff {name : String} : sessionToken name headers = none ↔
    ∀ piece ∈ pieces headers, ∀ value, ¬ Holds (Text.utf8 name) value piece := by
  rw [sessionToken_eq, Option.map_eq_none_iff, List.find?_eq_none]
  constructor
  · intro none piece member value holds
    obtain ⟨held, some⟩ := holds_iff.mp holds
    exact none _ (List.mem_filterMap.mpr ⟨piece, member, held⟩) (isWanted_iff.mpr ⟨rfl, some⟩)
  · rintro none ⟨_, value⟩ member wanted
    obtain ⟨piece, among, held⟩ := List.mem_filterMap.mp member
    obtain ⟨rfl, some⟩ := isWanted_iff.mp wanted
    exact none piece among value (holds_iff.mpr ⟨held, some⟩)

theorem mem_of_mem_segments {separator byte : UInt8} {bytes piece : Bytes}
    (inside : piece ∈ segments separator bytes) (member : byte ∈ piece) : byte ∈ bytes := by
  induction bytes generalizing piece with
  | nil =>
    obtain rfl := List.mem_singleton.mp inside
    exact member
  | cons lead rest ih =>
    rw [segments] at inside
    split at inside
    case isTrue =>
      rcases List.mem_cons.mp inside with rfl | later
      · cases member
      · exact List.mem_cons_of_mem _ (ih later member)
    case isFalse =>
      split at inside
      case h_1 first others cut =>
        rw [cut] at ih
        rcases List.mem_cons.mp inside with rfl | later
        · rcases List.mem_cons.mp member with rfl | behind
          · exact List.mem_cons_self ..
          · exact List.mem_cons_of_mem _ (ih (List.mem_cons_self ..) behind)
        · exact List.mem_cons_of_mem _ (ih (List.mem_cons_of_mem _ later) member)
      case h_2 =>
        obtain rfl := List.mem_singleton.mp inside
        obtain rfl := List.mem_singleton.mp member
        exact List.mem_cons_self ..

theorem readable_of_firstHolds (first : FirstHolds name value (pieces headers)) :
    ∀ byte ∈ value, Header.isReadable byte = true := by
  obtain ⟨before, piece, after, same, ⟨-, -, ⟨left, right, -, rfl⟩, -⟩, -⟩ := first
  intro byte member
  have among : left ++ ((name ++ ascii '=' :: value) ++ right) ∈ pieces headers := by
    rw [same]
    simp
  obtain ⟨field, read, inside⟩ := List.mem_flatMap.mp among
  obtain ⟨header, -, whole⟩ := List.mem_filterMap.mp read
  obtain ⟨readable, rfl⟩ := readable?_eq_some_iff.mp whole
  exact List.all_eq_true.mp readable byte (mem_of_mem_segments inside (by simp [member]))

end

theorem ofAscii_utf8 {text : String}
    (readable : ∀ byte ∈ Text.utf8 text, Header.isReadable byte = true) :
    Text.ofAscii (Text.utf8 text) = text :=
  Text.utf8_injective
    (Text.utf8_ofAscii fun byte member => small_of_isReadable (readable byte member))

section

variable {gateway : Gateway} {headers : List Header} {text : String}

theorem bearerToken_of_authorizes (authorizes : Authorizes headers text) :
    gateway.bearerToken headers = some text := by
  have borne := borne_eq_some_iff.mpr authorizes
  obtain ⟨header, -, bearing⟩ := authorizes
  rw [bearerToken, borne, Option.some_or, Option.map_some, ofAscii_utf8 bearing.readable_text]

theorem bearerToken_of_not_authorizes (none : ∀ text, ¬ Authorizes headers text) :
    gateway.bearerToken headers =
      (sessionToken gateway.authority.settings.cookieName headers).map Text.ofAscii := by
  rw [bearerToken]
  cases borne : ((headers.find? (·.hasName "authorization")).bind (·.readable?)).bind bearer with
  | none => rfl
  | some bytes =>
    obtain ⟨header, found, bearing⟩ := borne_eq_some_iff.mp borne
    have spelled : Text.utf8 (Text.ofAscii bytes) = bytes := Text.utf8_ofAscii fun byte member =>
      small_of_isReadable (bearing.readable_text byte member)
    exact absurd ⟨header, found, spelled.symm ▸ bearing⟩ (none (Text.ofAscii bytes))

theorem map_ofAscii_eq_some_iff {name : String} :
    (sessionToken name headers).map Text.ofAscii = some text ↔
      FirstHolds (Text.utf8 name) (Text.utf8 text) (pieces headers) := by
  rw [Option.map_eq_some_iff]
  constructor
  · rintro ⟨value, found, rfl⟩
    have first := sessionToken_eq_some_iff.mp found
    rwa [Text.utf8_ofAscii fun byte member =>
      small_of_isReadable (readable_of_firstHolds first byte member)]
  · intro first
    exact ⟨Text.utf8 text, sessionToken_eq_some_iff.mpr first,
      ofAscii_utf8 (readable_of_firstHolds first)⟩

end

/-- A byte that can be seen. -/
def isVisible (byte : UInt8) : Bool := 33 ≤ byte && byte < 127

/-- A name of a cookie: visible bytes that separate nothing. -/
def IsName (bytes : Bytes) : Prop :=
  ∀ byte ∈ bytes, isVisible byte = true ∧ byte ≠ ascii '=' ∧ byte ≠ ascii ';'

/-- A value of a cookie: visible bytes that separate no cookies. -/
def IsValue (bytes : Bytes) : Prop := ∀ byte ∈ bytes, isVisible byte = true ∧ byte ≠ ascii ';'

/-- A cookie as it is sent back. -/
def sent (cookie : Bytes × Bytes) : Bytes := cookie.1 ++ ascii '=' :: cookie.2

/-- The part of a cookie that is sent back. -/
def part (cookie : String) : Bytes := (Text.utf8 cookie).takeWhile (· ≠ ascii ';')

/-- The value of a field with these parts of cookies. -/
def joined : List Bytes → Bytes
  | [] => []
  | first :: others => first ++ others.flatMap fun other => Text.utf8 "; " ++ other

/-- A client sends these parts of cookies, in one field or several, among other fields of which none
authorizes it. -/
inductive Sends : List Header → List Bytes → Prop where
  | nil : Sends [] []
  | other {header : Header} {headers : List Header} {parts : List Bytes}
      (authorization : header.hasName "authorization" = false)
      (cookie : header.hasName "cookie" = false) (rest : Sends headers parts) :
      Sends (header :: headers) parts
  | field {header : Header} {headers : List Header} {some parts : List Bytes}
      (cookie : header.hasName "cookie" = true) (value : header.value = joined some)
      (rest : Sends headers parts) : Sends (header :: headers) (some ++ parts)

theorem of_isVisible {byte : UInt8} (visible : isVisible byte = true) :
    isBlank byte = false ∧ Header.isReadable byte = true := by
  have all : ∀ byte : BitVec 8, isVisible ⟨byte⟩ = true →
      isBlank ⟨byte⟩ = false ∧ Header.isReadable ⟨byte⟩ = true := by decide +kernel
  exact all byte.toBitVec visible

section

variable {name value : Bytes} (named : IsName name) (valued : IsValue value)
include named valued

theorem visible_of_sent :
    ∀ byte ∈ sent (name, value), isVisible byte = true ∧ byte ≠ ascii ';' := by
  intro byte member
  rcases List.mem_append.mp member with inName | behind
  · exact ⟨(named byte inName).1, (named byte inName).2.2⟩
  rcases List.mem_cons.mp behind with rfl | inValue
  · exact ⟨by decide, by decide⟩
  · exact valued byte inValue

theorem cookie?_sent : cookie? (sent (name, value)) = some (name, value) := by
  have dark : ∀ byte ∈ sent (name, value), isBlank byte = false :=
    fun byte member => (of_isVisible (visible_of_sent named valued byte member).1).1
  have whole : trimmed (sent (name, value)) = sent (name, value) :=
    trimmed_eq_self (fun byte found => dark byte (List.mem_of_mem_head? found))
      fun byte found => dark byte (List.mem_of_mem_getLast? found)
  rw [cookie?, whole]
  exact splitAt_append (fun member => (named _ member).2.1 rfl) value

/-- The part that is sent back ends at the first semicolon. -/
theorem takeWhile_sent (rest : Bytes) :
    (sent (name, value) ++ ascii ';' :: rest).takeWhile (· ≠ ascii ';') = sent (name, value) := by
  have all : ∀ byte ∈ sent (name, value), decide (byte ≠ ascii ';') = true :=
    fun byte member => decide_eq_true (visible_of_sent named valued byte member).2
  rw [List.takeWhile_append_of_pos all, List.takeWhile_cons_of_neg (by simp), List.append_nil]

end

theorem filterMap_sent {cookies : List (Bytes × Bytes)}
    (good : ∀ cookie ∈ cookies, IsName cookie.1 ∧ IsValue cookie.2) :
    (cookies.map sent).filterMap cookie? = cookies := by
  induction cookies with
  | nil => rfl
  | cons cookie cookies ih =>
    have first := good cookie (List.mem_cons_self ..)
    rw [List.map_cons, List.filterMap_cons, cookie?_sent first.1 first.2]
    exact congrArg _ (ih fun other member => good other (List.mem_cons_of_mem _ member))

theorem part_sessionCookie {gateway : Gateway} {token : String}
    (named : IsName (Text.utf8 gateway.authority.settings.cookieName))
    (valued : IsValue (Text.utf8 token)) : part (gateway.sessionCookie token) =
      sent (Text.utf8 gateway.authority.settings.cookieName, Text.utf8 token) := by
  rw [part, utf8_sessionCookie]
  exact takeWhile_sent named valued _

theorem part_clearedCookie {gateway : Gateway}
    (named : IsName (Text.utf8 gateway.authority.settings.cookieName)) :
    part gateway.clearedCookie = sent (Text.utf8 gateway.authority.settings.cookieName, []) := by
  have spelled : gateway.clearedCookie = gateway.authority.settings.cookieName ++
      "=; Path=/; Max-Age=0; HttpOnly; Secure; SameSite=Strict" := rfl
  have rest : Text.utf8 "=; Path=/; Max-Age=0; HttpOnly; Secure; SameSite=Strict" =
      ascii '=' :: ascii ';' ::
        Text.utf8 " Path=/; Max-Age=0; HttpOnly; Secure; SameSite=Strict" := by
    decide +kernel
  have empty : IsValue [] := fun byte member => by cases member
  have taken := takeWhile_sent named empty
    (Text.utf8 " Path=/; Max-Age=0; HttpOnly; Secure; SameSite=Strict")
  rw [part, spelled, Text.utf8_append, rest, ← taken]
  simp [sent]

/-- A blank in front of a piece is cut off. -/
theorem cookie?_cons_space (piece : Bytes) : cookie? (ascii ' ' :: piece) = cookie? piece := by
  have blank : isBlank (ascii ' ') = true := by decide
  rw [cookie?, trimmed, List.dropWhile_cons_of_pos blank]
  rfl

theorem segments_joined {first : Bytes} {others : List Bytes} (plain : ascii ';' ∉ first)
    (apart : ∀ other ∈ others, ascii ';' ∉ other) :
    segments (ascii ';') (joined (first :: others)) = first :: others.map (ascii ' ' :: ·) := by
  induction others generalizing first with
  | nil =>
    rw [joined, List.flatMap_nil, List.append_nil]
    exact segments_of_not_mem plain
  | cons other others ih =>
    have spelled : Text.utf8 "; " = [ascii ';', ascii ' '] := by decide +kernel
    have next : ascii ';' ∉ ascii ' ' :: other := by
      have none := apart other (List.mem_cons_self ..)
      have different : ascii ';' ≠ ascii ' ' := by decide
      simp [none, different]
    have whole : joined (first :: other :: others) =
        first ++ ascii ';' :: joined ((ascii ' ' :: other) :: others) := by
      simp [joined, spelled]
    rw [whole, segments_append plain,
      ih next fun each member => apart each (List.mem_cons_of_mem _ member), List.map_cons]

theorem filterMap_segments_joined {parts : List Bytes} (apart : ∀ part ∈ parts, ascii ';' ∉ part) :
    (segments (ascii ';') (joined parts)).filterMap cookie? = parts.filterMap cookie? := by
  cases parts with
  | nil => rfl
  | cons first others =>
    have same : cookie? ∘ (ascii ' ' :: ·) = cookie? := funext cookie?_cons_space
    rw [segments_joined (apart first (List.mem_cons_self ..))
        fun other member => apart other (List.mem_cons_of_mem _ member),
      List.filterMap_cons, List.filterMap_cons, List.filterMap_map, same]

theorem isReadable_of_mem_joined {parts : List Bytes}
    (readable : ∀ part ∈ parts, ∀ byte ∈ part, Header.isReadable byte = true) :
    (joined parts).all Header.isReadable = true := by
  have marks : ∀ byte ∈ Text.utf8 "; ", Header.isReadable byte = true := by decide +kernel
  refine List.all_eq_true.mpr fun byte member => ?_
  cases parts with
  | nil => cases member
  | cons first others =>
    rcases List.mem_append.mp member with front | behind
    · exact readable first (List.mem_cons_self ..) byte front
    obtain ⟨other, among, inside⟩ := List.mem_flatMap.mp behind
    rcases List.mem_append.mp inside with mark | inside
    · exact marks byte mark
    · exact readable other (List.mem_cons_of_mem _ among) byte inside

theorem filterMap_pieces_of_sends {headers : List Header} {parts : List Bytes}
    (sends : Sends headers parts)
    (plain : ∀ part ∈ parts, ∀ byte ∈ part, Header.isReadable byte = true ∧ byte ≠ ascii ';') :
    (pieces headers).filterMap cookie? = parts.filterMap cookie? := by
  induction sends with
  | nil => rfl
  | other authorization cookie rest ih =>
    rw [← ih plain, pieces, List.filter_cons, cookie]
    rfl
  | @field header headers some parts cookie value rest ih =>
    have later := ih fun part member => plain part (List.mem_append_right _ member)
    have readable : header.value.all Header.isReadable = true := value ▸
      isReadable_of_mem_joined fun part member byte inside =>
        (plain part (List.mem_append_left _ member) byte inside).1
    have read : header.readable? = Option.some header.value := if_pos readable
    have apart : ∀ part ∈ some, ascii ';' ∉ part := fun part member inside =>
      (plain part (List.mem_append_left _ member) _ inside).2 rfl
    have cut : pieces (header :: headers) =
        segments (ascii ';') (joined some) ++ pieces headers := by
      rw [pieces, List.filter_cons, cookie, if_pos rfl, List.filterMap_cons, read, ← value]
      rfl
    rw [cut, List.filterMap_append, later, filterMap_segments_joined apart, List.filterMap_append]

/-- Cookies that are sent back are found as they are. -/
theorem filterMap_pieces_sent {headers : List Header} {cookies : List (Bytes × Bytes)}
    (good : ∀ cookie ∈ cookies, IsName cookie.1 ∧ IsValue cookie.2)
    (sends : Sends headers (cookies.map sent)) : (pieces headers).filterMap cookie? = cookies := by
  refine (filterMap_pieces_of_sends sends fun part member byte inside => ?_).trans
    (filterMap_sent good)
  obtain ⟨cookie, among, rfl⟩ := List.mem_map.mp member
  obtain ⟨named, valued⟩ := good cookie among
  obtain ⟨visible, apart⟩ := visible_of_sent named valued byte inside
  exact ⟨(of_isVisible visible).2, apart⟩

theorem not_authorizes_of_sends {headers : List Header} {parts : List Bytes}
    (sends : Sends headers parts) (text : String) : ¬ Authorizes headers text := by
  have absent : ∀ header ∈ headers, header.hasName "authorization" = false := by
    induction sends with
    | nil => simp
    | other authorization cookie rest ih =>
      intro header member
      rcases List.mem_cons.mp member with rfl | later
      · exact authorization
      · exact ih header later
    | field cookie value rest ih =>
      intro header member
      rcases List.mem_cons.mp member with rfl | later
      · rw [Header.hasName, decide_eq_true_eq] at cookie
        rw [Header.hasName, cookie]
        decide
      · exact ih header later
  rintro ⟨header, found, -⟩
  have named := List.find?_some found
  rw [absent header (List.mem_of_find?_eq_some found)] at named
  cases named

/-- The name of the session cookie. -/
def sessionName (gateway : Gateway) : Bytes := Text.utf8 gateway.authority.settings.cookieName

/-- A cookie that clients may hold besides that of a name. -/
def Foreign (name : Bytes) (cookie : Bytes × Bytes) : Prop :=
  IsName cookie.1 ∧ IsValue cookie.2 ∧ cookie.1 ≠ name

theorem find?_foreign {name : Bytes} {others : List (Bytes × Bytes)}
    (foreign : ∀ other ∈ others, Foreign name other) : others.find? (isWanted name) = none :=
  List.find?_eq_none.mpr fun other member wanted =>
    (foreign other member).2.2 (isWanted_iff.mp wanted).1

section

variable {gateway : Gateway} {headers : List Header} {before after : List (Bytes × Bytes)}
  (named : IsName gateway.sessionName)
  (foreign : ∀ other ∈ before ++ after, Foreign gateway.sessionName other)
include named foreign

/-- The session's cookie is found among the others, unless its value is empty. -/
theorem bearerToken_of_sends {value : Bytes} (valued : IsValue value)
    (sends : Sends headers
      (before.map sent ++ sent (gateway.sessionName, value) :: after.map sent)) :
    gateway.bearerToken headers = if value = [] then none else some (Text.ofAscii value) := by
  have good : ∀ cookie ∈ before ++ (gateway.sessionName, value) :: after,
      IsName cookie.1 ∧ IsValue cookie.2 := by
    intro cookie member
    rcases List.mem_append.mp member with front | behind
    · have other := foreign cookie (List.mem_append_left _ front)
      exact ⟨other.1, other.2.1⟩
    rcases List.mem_cons.mp behind with rfl | later
    · exact ⟨named, valued⟩
    · have other := foreign cookie (List.mem_append_right _ later)
      exact ⟨other.1, other.2.1⟩
  have parts : before.map sent ++ sent (gateway.sessionName, value) :: after.map sent =
      (before ++ (gateway.sessionName, value) :: after).map sent := by simp
  have front := find?_foreign fun other member => foreign other (List.mem_append_left _ member)
  have back := find?_foreign fun other member => foreign other (List.mem_append_right _ member)
  rw [bearerToken_of_not_authorizes (not_authorizes_of_sends sends), sessionToken_eq,
    filterMap_pieces_sent good (parts ▸ sends), ← sessionName, List.find?_append, front,
    Option.none_or, List.find?_cons]
  by_cases empty : value = []
  · have unwanted : isWanted gateway.sessionName (gateway.sessionName, value) = false := by
      simp [isWanted, empty]
    rw [unwanted, back, if_pos empty]
    rfl
  · have wanted : isWanted gateway.sessionName (gateway.sessionName, value) = true :=
      isWanted_iff.mpr ⟨rfl, empty⟩
    rw [wanted, if_neg empty]
    rfl

end

/-- What the first authorization field bears is the token. Otherwise it is the value of the first
cookie that has the session's name and is not empty. So a session cookie that is sent back brings
its token, among whatever others, and one that has been cleared brings none. -/
theorem bearerToken_inverts (gateway : Gateway) (headers : List Header) :
    (∀ text, Authorizes headers text → gateway.bearerToken headers = some text) ∧
    ((∀ text, ¬ Authorizes headers text) →
      (∀ text, gateway.bearerToken headers = some text ↔
        FirstHolds gateway.sessionName (Text.utf8 text) (pieces headers)) ∧
      (gateway.bearerToken headers = none ↔
        ∀ piece ∈ pieces headers, ∀ value, ¬ Holds gateway.sessionName value piece)) ∧
    (IsName gateway.sessionName → ∀ before after : List (Bytes × Bytes),
      (∀ other ∈ before ++ after, Foreign gateway.sessionName other) →
      (∀ token, token ≠ "" → IsValue (Text.utf8 token) →
        Sends headers (before.map sent ++ part (gateway.sessionCookie token) :: after.map sent) →
        gateway.bearerToken headers = some token) ∧
      (Sends headers (before.map sent ++ part gateway.clearedCookie :: after.map sent) →
        gateway.bearerToken headers = none)) := by
  refine ⟨fun text authorizes => bearerToken_of_authorizes authorizes, fun none => ?_,
    fun named before after foreign => ⟨fun token some valued sends => ?_, fun sends => ?_⟩⟩
  · rw [bearerToken_of_not_authorizes none]
    refine ⟨fun text => map_ofAscii_eq_some_iff, ?_⟩
    rw [Option.map_eq_none_iff]
    exact sessionToken_eq_none_iff
  · rw [part_sessionCookie named valued] at sends
    rw [bearerToken_of_sends named foreign valued sends,
      if_neg fun empty => some (Text.utf8_eq_nil_iff.mp empty),
      ofAscii_utf8 fun byte member => (of_isVisible (valued byte member).1).2]
  · rw [part_clearedCookie named] at sends
    have empty : IsValue [] := fun byte member => by cases member
    rw [bearerToken_of_sends named foreign empty sends, if_pos rfl]

/-- A field that bears a token comes before a cookie, and a session cookie is sent back behind
another one, until it is cleared. -/
theorem bearerToken_inverts_sample :
    sample.bearerToken [⟨"cookie", Text.utf8 "token=d"⟩,
      ⟨"Authorization", Text.utf8 " bEARER \t a b\t"⟩] = some "a b" ∧
    sample.bearerToken [⟨"cookie", joined [sent (Text.utf8 "theme", Text.utf8 "dark"),
      part (sample.sessionCookie "a=b.c")]⟩] = some "a=b.c" ∧
    sample.bearerToken [⟨"cookie", joined [sent (Text.utf8 "theme", Text.utf8 "dark"),
      part sample.clearedCookie]⟩] = none := by
  have bearing : Bearing (Text.utf8 " bEARER \t a b\t") (Text.utf8 "a b") := by
    have cut : trimmed (Text.utf8 "a b") = Text.utf8 "a b" := by decide +kernel
    have around : ([32] ++ [9] : Bytes).all isBlank = true := rfl
    have padding : ([9, 32] : Bytes).all isBlank = true := rfl
    exact ⟨Text.utf8 "bEARER", [9, 32], ⟨[32], [9], List.all_eq_true.mp around, by decide +kernel⟩,
      by decide +kernel, List.all_eq_true.mp padding, by decide +kernel, cut ▸ bare_trimmed _,
      by decide +kernel⟩
  have named : IsName sample.sessionName := by
    show ∀ byte ∈ Text.utf8 "token", _
    decide +kernel
  have foreign : ∀ other ∈ [(Text.utf8 "theme", Text.utf8 "dark")] ++ [],
      Foreign sample.sessionName other := by
    intro other member
    obtain rfl := List.mem_singleton.mp member
    refine ⟨?_, ?_, ?_⟩
    · show ∀ byte ∈ Text.utf8 "theme", _
      decide +kernel
    · show ∀ byte ∈ Text.utf8 "dark", _
      decide +kernel
    · show Text.utf8 "theme" ≠ Text.utf8 "token"
      decide +kernel
  have valued : IsValue (Text.utf8 "a=b.c") := by
    show ∀ byte ∈ Text.utf8 "a=b.c", _
    decide +kernel
  have lower : "cookie".map Char.toLower = "cookie" := by decide +kernel
  have sends : ∀ parts, Sends [⟨"cookie", joined parts⟩] (parts ++ []) :=
    fun parts => .field (decide_eq_true lower) rfl .nil
  have authorizes : Authorizes [⟨"cookie", Text.utf8 "token=d"⟩,
      ⟨"Authorization", Text.utf8 " bEARER \t a b\t"⟩] "a b" :=
    ⟨⟨"Authorization", Text.utf8 " bEARER \t a b\t"⟩, by decide +kernel, bearing⟩
  refine ⟨(bearerToken_inverts sample _).1 "a b" authorizes, ?_, ?_⟩
  · exact ((bearerToken_inverts sample _).2.2 named _ _ foreign).1 _ (by decide) valued (sends _)
  · exact ((bearerToken_inverts sample _).2.2 named _ _ foreign).2 (sends _)

end Signet.Gateway
