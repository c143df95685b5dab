import Polyglot.Proofs.Detection.Choice
import Polyglot.Proofs.Text.Parts

/-!
# Cookies that come back

Cookies with plain names and values are written into a header one after the other, and reading the
header finds exactly them again. A choice that is stored in a cookie is therefore found when the
user agent sends the cookie back among others.
-/
namespace Polyglot.CookieHeader

/-! ## Plain texts -/

/-- The characters of a plain text: letters and digits of ASCII, hyphens and underscores. -/
def isPlainChar (c : Char) : Bool := c.isAlphanum || c == '-' || c == '_'

/-- Whether a text is plain and not empty. -/
structure IsPlain (s : String) : Prop where
  ne_nil : s.toList ≠ []
  chars : ∀ c ∈ s.toList, isPlainChar c = true

instance (s : String) : Decidable (IsPlain s) :=
  decidable_of_iff (s.toList ≠ [] ∧ s.toList.all isPlainChar = true)
    ⟨fun h => ⟨h.1, List.all_eq_true.1 h.2⟩, fun h => ⟨h.ne_nil, List.all_eq_true.2 h.chars⟩⟩

/-- Whether a cookie has a plain name, other than the words for attributes, and a plain value. -/
structure IsPlainCookie (e : String × String) : Prop where
  name : IsPlain e.1
  free : String.ofList (e.1.toList.map Char.toLower) ∉ attributes
  value : IsPlain e.2

instance (e : String × String) : Decidable (IsPlainCookie e) :=
  decidable_of_iff
    (IsPlain e.1 ∧ String.ofList (e.1.toList.map Char.toLower) ∉ attributes ∧ IsPlain e.2)
    ⟨fun h => ⟨h.1, h.2.1, h.2.2⟩, fun h => ⟨h.name, h.free, h.value⟩⟩

section Characters

variable {c d : Char}

theorem ne_of_isPlainChar (hc : isPlainChar c = true) (hd : isPlainChar d = false) : c ≠ d := by
  rintro rfl
  rw [hc] at hd
  cases hd

theorem not_mem_of_isPlainChar {cs : List Char} (h : ∀ c ∈ cs, isPlainChar c = true)
    (hd : isPlainChar d = false) : d ∉ cs :=
  fun hmem => ne_of_isPlainChar (h d hmem) hd rfl

theorem isSpace_of_isPlainChar (h : isPlainChar c = true) : isSpace c = false := by
  have hne {n : Nat} (hn : isPlainChar (Char.ofNat n) = false) : c.toNat ≠ n := by
    rintro rfl
    rw [Char.ofNat_toNat, h] at hn
    cases hn
  simp [isSpace, ne_of_isPlainChar h, hne, isPlainChar]

theorem isKeyChar_of_isPlainChar (h : isPlainChar c = true) : isKeyChar c = true := by
  simp only [isPlainChar, Bool.or_eq_true, beq_iff_eq] at h
  rcases h with (h | rfl) | rfl
  · simp [isKeyChar, isWord, h]
  · decide
  · decide

theorem isNameChar_of_isPlainChar (h : isPlainChar c = true) : isNameChar c = true := by
  simp only [isPlainChar, Bool.or_eq_true, beq_iff_eq] at h
  rcases h with (h | rfl) | rfl
  · simp [isNameChar, h]
  · decide
  · decide

end Characters

/-! ## One piece -/

/-- What may follow a piece of a header, and what is left behind it. -/
inductive Closes : List Char → List Char → Prop
  | atEnd : Closes [] []
  | semicolon (rest : List Char) : Closes (';' :: rest) rest

section Piece

variable {c : Char} {name value rest after : List Char}

theorem skip_of_isPlainChar (h : isPlainChar c = true) (rest : List Char) :
    skip (c :: rest) = c :: rest := by
  rw [skip, List.dropWhile_cons_of_neg (by simp [isSpace_of_isPlainChar h])]

theorem Closes.ending? (h : Closes rest after) : ending? rest = some after := by
  cases h <;> rfl

/-- No piece ends before a plain character. -/
theorem ending?_of_isPlainChar (h : isPlainChar c = true) (rest : List Char) :
    CookieHeader.ending? (c :: rest) = none := by
  have hsemicolon : c ≠ ';' := ne_of_isPlainChar h (by decide)
  rw [CookieHeader.ending?, skip_of_isPlainChar h]
  simp [hsemicolon]

/-- A date has a comma in it. -/
theorem date?_of_not_mem (h : ',' ∉ rest) : date? rest = none := by
  rw [date?, Option.bind_eq_bind, Option.bind_eq_none_iff]
  rintro ⟨word, r⟩ hcut
  obtain ⟨-, hr⟩ := Option.ite_some_none_eq_some.1 hcut
  obtain rfl : rest.drop 3 = r := congrArg Prod.snd hr
  dsimp only
  split
  · rename_i r hr
    exact absurd (List.mem_of_mem_drop (hr ▸ List.mem_cons_self)) h
  · rfl

/-- A plain value is read whole. -/
theorem value?_append (hvalue : ∀ d ∈ value, isPlainChar d = true) (hne : value ≠ [])
    (hcomma : ',' ∉ rest) (h : Closes rest after) :
    value? (value ++ rest) = some (value, after) := by
  have hstop : ∀ d ∈ rest.head?, isValueChar d = false := by
    cases h with
    | atEnd => simp
    | semicolon => simp [isValueChar, isKeyChar, isWord]
  have hchars : ∀ d ∈ value, isValueChar d = true := fun d hd => by
    simp [isValueChar, isKeyChar_of_isPlainChar (hvalue d hd)]
  have hdate : date? (value ++ rest) = none := by
    refine date?_of_not_mem fun hmem => ?_
    rcases List.mem_append.1 hmem with hmem | hmem
    · exact not_mem_of_isPlainChar hvalue (by decide) hmem
    · exact hcomma hmem
  have hquote : ∀ r, value ++ rest ≠ '"' :: r := by
    rintro r hr
    obtain ⟨c, v, rfl⟩ := List.exists_cons_of_ne_nil hne
    exact ne_of_isPlainChar (hvalue c List.mem_cons_self) (by decide) (List.cons.inj hr).1
  unfold value?
  rw [hdate, Text.takeWhile_append_stop hchars hstop, Text.dropWhile_append_stop hchars hstop,
    h.ending?]
  split
  · rename_i r hr
    exact absurd hr (hquote r)
  · rfl

theorem afterKey?_append (hne : value ≠ []) (hvalue : ∀ d ∈ value, isPlainChar d = true)
    (hcomma : ',' ∉ rest) (h : Closes rest after) :
    afterKey? ('=' :: (value ++ rest)) = some (some value, after) := by
  obtain ⟨c, r, rfl⟩ := List.exists_cons_of_ne_nil hne
  have hstart : skip (c :: r ++ rest) = c :: r ++ rest :=
    skip_of_isPlainChar (hvalue c List.mem_cons_self) _
  have hskip : skip ('=' :: (c :: r ++ rest)) = '=' :: (c :: r ++ rest) := rfl
  rw [afterKey?, hskip]
  simp only [hstart, value?_append hvalue hne hcomma h]
  rfl

/-- A name does not end before a plain character. -/
theorem afterKey?_of_isPlainChar (h : isPlainChar c = true) (rest : List Char) :
    afterKey? (c :: rest) = none := by
  have hequals : c ≠ '=' := ne_of_isPlainChar h (by decide)
  rw [afterKey?, skip_of_isPlainChar h, ending?_of_isPlainChar h]
  simp [hequals]

/-- A piece is read whole: its name goes as far as the first equals sign. -/
theorem pieceFrom?_append (hname : ∀ d ∈ name, isPlainChar d = true) (hnamed : name ≠ [])
    (hne : value ≠ []) (hvalue : ∀ d ∈ value, isPlainChar d = true) (hcomma : ',' ∉ rest)
    (h : Closes rest after) (key : List Char) :
    pieceFrom? key (name ++ '=' :: (value ++ rest)) =
      some (key.reverse ++ name, some value, after) := by
  induction name generalizing key with
  | nil => exact absurd rfl hnamed
  | cons c r ih =>
    obtain ⟨hc, hr⟩ := List.forall_mem_cons.1 hname
    rw [List.cons_append, pieceFrom?, if_pos (isKeyChar_of_isPlainChar hc)]
    cases r with
    | nil => simp [afterKey?_append hne hvalue hcomma h]
    | cons d r =>
      have hnone := afterKey?_of_isPlainChar (hr d List.mem_cons_self)
        (r ++ '=' :: (value ++ rest))
      rw [List.cons_append, hnone]
      simpa using ih hr (List.cons_ne_nil d r) (c :: key)

/-- Blanks in front of a piece are dropped. -/
theorem piece?_append {lead : List Char} (hlead : ∀ d ∈ lead, isSpace d = true)
    (hname : ∀ d ∈ name, isPlainChar d = true) (hnamed : name ≠ [])
    (hvalue : ∀ d ∈ value, isPlainChar d = true) (hne : value ≠ []) (hcomma : ',' ∉ rest)
    (h : Closes rest after) :
    piece? (lead ++ (name ++ '=' :: (value ++ rest))) = some (name, some value, after) := by
  obtain ⟨c, r, rfl⟩ := List.exists_cons_of_ne_nil hnamed
  have hskip : skip (lead ++ (c :: r ++ '=' :: (value ++ rest))) =
      c :: r ++ '=' :: (value ++ rest) := by
    rw [skip, List.dropWhile_append_of_pos hlead]
    exact skip_of_isPlainChar (hname c List.mem_cons_self) _
  rw [piece?, hskip, pieceFrom?_append hname hnamed hne hvalue hcomma h]
  rfl

theorem pieces_nil (fuel : Nat) : pieces fuel [] = [] := by
  cases fuel <;> rfl

theorem pieces_succ {cs key : List Char} {v : Option (List Char)}
    (h : piece? cs = some (key, v, rest)) (fuel : Nat) :
    pieces (fuel + 1) cs = (key, v) :: pieces fuel rest := by
  cases cs with
  | nil => cases h
  | cons c r =>
    rw [pieces, h]
    exact List.cons_ne_nil c r

end Piece

/-! ## A whole header -/

/-- A cookie as a piece of a header. -/
def piece (e : String × String) : String := e.1 ++ "=" ++ e.2

/-- The header of some cookies. -/
def write (cookies : List (String × String)) : String := "; ".intercalate (cookies.map piece)

section Header

variable {e : String × String} {es cookies : List (String × String)}

/-- What is written behind a cookie, when others follow. -/
def writeRest : List (String × String) → List Char
  | [] => []
  | e :: es => ';' :: ' ' :: (write (e :: es)).toList

theorem toList_write_cons (e : String × String) (es : List (String × String)) :
    (write (e :: es)).toList = e.1.toList ++ '=' :: (e.2.toList ++ writeRest es) := by
  cases es with
  | nil => simp [write, writeRest, piece]
  | cons d ds => simp [write, writeRest, piece, String.toList_intercalate]

theorem not_mem_write (h : ∀ e ∈ cookies, IsPlainCookie e) : ',' ∉ (write cookies).toList := by
  induction cookies with
  | nil => simp [write]
  | cons e es ih =>
    obtain ⟨he, hes⟩ := List.forall_mem_cons.1 h
    have hname : ',' ∉ e.1.toList := not_mem_of_isPlainChar he.name.chars (by decide)
    have hvalue : ',' ∉ e.2.toList := not_mem_of_isPlainChar he.value.chars (by decide)
    have hrest : ',' ∉ writeRest es := by
      cases es with
      | nil => simp [writeRest]
      | cons d ds => simpa [writeRest] using ih hes
    simp [toList_write_cons, hname, hvalue, hrest]

/-- Every piece of a written header is read, one after the other. -/
theorem pieces_write (h : ∀ e ∈ cookies, IsPlainCookie e) (hne : cookies ≠ [])
    {lead : List Char} (hlead : ∀ c ∈ lead, isSpace c = true) {fuel : Nat}
    (hfuel : cookies.length ≤ fuel) :
    pieces fuel (lead ++ (write cookies).toList) =
      cookies.map fun e => (e.1.toList, some e.2.toList) := by
  induction cookies generalizing lead fuel with
  | nil => exact absurd rfl hne
  | cons e es ih =>
    obtain ⟨he, hes⟩ := List.forall_mem_cons.1 h
    obtain ⟨fuel, rfl⟩ : ∃ n, fuel = n + 1 := Nat.exists_eq_add_one.2 (Nat.lt_of_lt_of_le
      (List.length_pos_of_ne_nil hne) hfuel)
    have hcomma : ',' ∉ writeRest es := fun hmem => not_mem_write h (by
      rw [toList_write_cons]
      exact List.mem_append_right _ (List.mem_cons_of_mem _ (List.mem_append_right _ hmem)))
    have hpiece {after : List Char} (hcloses : Closes (writeRest es) after) :
        piece? (lead ++ (write (e :: es)).toList) = some (e.1.toList, some e.2.toList, after) := by
      rw [toList_write_cons]
      exact piece?_append hlead he.name.chars he.name.ne_nil he.value.chars he.value.ne_nil hcomma
        hcloses
    -- The semicolon belongs to this piece, the space behind it to the next one.
    cases es with
    | nil => rw [pieces_succ (hpiece .atEnd), pieces_nil, List.map_singleton]
    | cons d ds =>
      have hspace : ∀ c ∈ [' '], isSpace c = true := List.forall_mem_singleton.2 rfl
      have hrest := ih hes (List.cons_ne_nil d ds) hspace (Nat.le_of_succ_le_succ hfuel)
      rw [pieces_succ (hpiece (.semicolon _)), List.map_cons]
      exact congrArg _ hrest

/-! ## Cookies -/

theorem content_of_isPlainChar {v : List Char} (h : ∀ c ∈ v, isPlainChar c = true) :
    content v = v := by
  cases v with
  | nil => rfl
  | cons c r =>
    have hquote : c ≠ '"' := ne_of_isPlainChar (h c List.mem_cons_self) (by decide)
    simp [content, hquote]

theorem item?_of_isPlainCookie (h : IsPlainCookie e) (seen : Bool) :
    item? seen e.1.toList (some e.2.toList) = some (.cookie e.1 e.2) := by
  have hdollar : e.1.toList.head? ≠ some '$' := fun hhead =>
    not_mem_of_isPlainChar h.name.chars (by decide) (List.mem_of_mem_head? hhead)
  have hword : attributes.contains (String.ofList (e.1.toList.map Char.toLower)) = false := by
    simpa using h.free
  simp only [item?, if_neg hdollar, hword, Bool.false_eq_true, if_false, Option.map_some,
    content_of_isPlainChar h.value.chars, String.ofList_toList]

theorem items?_map (h : ∀ e ∈ cookies, IsPlainCookie e) (seen : Bool) :
    items? seen (cookies.map fun e => (e.1.toList, some e.2.toList)) =
      some (cookies.map fun e => .cookie e.1 e.2) := by
  induction cookies generalizing seen with
  | nil => rfl
  | cons e es ih =>
    obtain ⟨he, hes⟩ := List.forall_mem_cons.1 h
    simp only [List.map_cons, items?, item?_of_isPlainCookie he, ih hes, Option.map_some]

theorem isName_of_isPlain {s : String} (h : IsPlain s) : isName s.toList = true := by
  have hne : s.toList.isEmpty = false := List.isEmpty_eq_false_iff.2 h.ne_nil
  have hall : s.toList.all isNameChar = true :=
    List.all_eq_true.2 fun c hc => isNameChar_of_isPlainChar (h.chars c hc)
  rw [isName, hne, hall]
  rfl

/-- Cookies are kept as a mapping keeps its entries. -/
theorem foldlM_keep? (h : ∀ e ∈ cookies, IsPlainCookie e) (kept : List (String × String)) :
    (cookies.map fun e => Item.cookie e.1 e.2).foldlM keep? kept =
      some (Entries.update kept cookies) := by
  induction cookies generalizing kept with
  | nil => rfl
  | cons e es ih =>
    obtain ⟨he, hes⟩ := List.forall_mem_cons.1 h
    have hkeep : keep? kept (.cookie e.1 e.2) = some (Entries.put kept e.1 e.2) :=
      if_pos (isName_of_isPlain he.name)
    rw [List.map_cons, List.foldlM_cons, hkeep]
    exact ih hes _

theorem length_le_write (cookies : List (String × String)) :
    cookies.length ≤ (write cookies).toList.length := by
  induction cookies with
  | nil => exact Nat.zero_le _
  | cons e es ih =>
    have hrest : es.length ≤ (writeRest es).length := by
      cases es with
      | nil => exact Nat.zero_le _
      | cons d ds =>
        simp only [writeRest, List.length_cons] at ih ⊢
        omega
    simp only [toList_write_cons, List.length_append, List.length_cons]
    omega

/-- A written header is read as the mapping of its cookies. -/
theorem parse_write_eq (h : ∀ e ∈ cookies, IsPlainCookie e) :
    parse (write cookies) = Entries.ofList cookies := by
  cases cookies with
  | nil => rfl
  | cons e es =>
    have hfuel : (e :: es).length ≤ (write (e :: es)).toList.length + 1 :=
      Nat.le_succ_of_le (length_le_write _)
    have hblank : ∀ c ∈ ([] : List Char), isSpace c = true := by simp
    have hpieces := pieces_write h (List.cons_ne_nil e es) hblank hfuel
    rw [List.nil_append] at hpieces
    simp only [parse, hpieces, items?_map h, foldlM_keep? h, Option.getD_some]
    rfl

end Header

/-! ## Stored choices -/

/-- The part of a header in front of its first semicolon. -/
def firstSegment (header : String) : String := String.ofList (Text.cutAt ';' header.toList).1

theorem firstSegment_header {name value : String} (hname : IsPlain name) (hvalue : IsPlain value)
    (maxAge : Value) (domain : Option String) :
    firstSegment (CookieJar.header (.text name) value maxAge domain) = piece (name, value) := by
  have hpiece : ';' ∉ (piece (name, value)).toList := by
    have hsemicolon : isPlainChar ';' = false := by decide
    simp [piece, not_mem_of_isPlainChar hname.chars hsemicolon,
      not_mem_of_isPlainChar hvalue.chars hsemicolon]
  have hheader : ∃ rest, (CookieJar.header (.text name) value maxAge domain).toList =
      (piece (name, value)).toList ++ ';' :: rest := by
    simp [CookieJar.header, piece, Value.display]
  obtain ⟨rest, hrest⟩ := hheader
  rw [firstSegment, hrest, Text.cutAt_append hpiece, String.ofList_toList]

/-- A cookie of a request is looked up by its name. -/
theorem lookup_ofRequest {cookies : List (String × String)} {e : String × String}
    {o : DetectionOptions} {headers : List (String × String)}
    (hparse : parse (DetectionContext.header headers "cookie") = cookies)
    (hnodup : (Entries.keys cookies).Nodup) (he : e ∈ cookies) (hvalue : e.2 ≠ "")
    (hname : o.cookieName = .text e.1) (url : String) (supported : List String) :
    BuiltIn.cookie.lookup o supported (.ofRequest url headers) = .ok (some e.2) := by
  have hget : Entries.get? (cookies.map fun d => (Key.text d.1, d.2)) (Key.text e.1) =
      some e.2 := by
    have hmap : Entries.get? (cookies.map fun d => (Key.text d.1, id d.2)) (Key.text e.1) =
        (Entries.get? cookies e.1).map id :=
      Entries.get?_map id fun k _ => by simp
    rw [Entries.get?_of_mem hnodup he] at hmap
    exact hmap
  have hlookup : BuiltIn.cookie.lookup o supported (.ofRequest url headers) =
      .ok ((Entries.get? (cookies.map fun d => (Key.text d.1, d.2)) (Key.text e.1)).filter
        (· ≠ "")) := by
    rw [BuiltIn.lookup, hname, ← hparse]
    rfl
  rw [hlookup, hget, Option.filter_some, if_pos (by simpa using hvalue)]

/-- Plain cookies with different names are read from their header as they are. So a choice that is
stored in such a cookie is looked up when the user agent sends it back among others. -/
theorem parse_write {cookies : List (String × String)} (hplain : ∀ e ∈ cookies, IsPlainCookie e)
    (hnodup : (Entries.keys cookies).Nodup) :
    parse (write cookies) = cookies ∧
    ∀ before name language after, cookies = before ++ (name, language) :: after →
      ∀ (o : DetectionOptions) (c : DetectionContext) (isSpent : Bool) (es : List (Key × String))
        (written : List String), o.cookieName = .text name →
        SettingsFault.isAtMostZero o.cookieMaxAge = .ok isSpent → c.cookies = .jar es written →
        ∃ c' emitted, BuiltIn.cookie.remember o language c = .ok c' ∧
          c'.cookies.headers = written ++ [emitted] ∧
          ∀ url headers supported,
            DetectionContext.header headers "cookie" =
              "; ".intercalate (before.map piece ++ firstSegment emitted :: after.map piece) →
            BuiltIn.cookie.lookup o supported (.ofRequest url headers) = .ok (some language) := by
  have hparse : parse (write cookies) = cookies :=
    (parse_write_eq hplain).trans (Entries.ofList_eq_self hnodup)
  refine ⟨hparse, ?_⟩
  rintro before name language after rfl o c isSpent es written hname hage hjar
  have hmem : (name, language) ∈ before ++ (name, language) :: after := by simp
  obtain ⟨hplainName, -, hplainValue⟩ := hplain _ hmem
  have hremember : BuiltIn.cookie.remember o language c = .ok { c with
      cookies := .jar (if isSpent then Entries.erase es name else Entries.put es name language)
        (written ++ [CookieJar.header (.text name) language o.cookieMaxAge o.domain]) } := by
    rw [BuiltIn.remember, hjar, hname, CookieJar.set_jar hage]
    rfl
  refine ⟨_, _, hremember, rfl, fun url headers supported hheader => ?_⟩
  rw [firstSegment_header hplainName hplainValue] at hheader
  have hsent : DetectionContext.header headers "cookie" =
      write (before ++ (name, language) :: after) := by
    rw [hheader, write, List.map_append, List.map_cons]
  have hne : language ≠ "" := fun h => hplainValue.ne_nil (by rw [h]; rfl)
  exact lookup_ofRequest (hsent ▸ hparse) hnodup hmem hne hname url supported

/-- Three cookies, the middle one with the choice. -/
def threeCookies : List (String × String) :=
  [("theme", "dark"), ("lingx-lang", "pt-BR"), ("Path_2", "a-1")]

theorem parse_write_threeCookies :
    parse (write threeCookies) = threeCookies ∧
    ∃ c', BuiltIn.cookie.remember .default "pt-BR" .empty = .ok c' ∧
      c'.cookies.headers = ["lingx-lang=pt-BR; path=/; max-age=31536000; SameSite=Lax"] ∧
      BuiltIn.cookie.lookup .default []
        (.ofRequest "/" [("COOKIE", "theme=dark; lingx-lang=pt-BR; Path_2=a-1")]) =
          .ok (some "pt-BR") := by
  have hplain : ∀ e ∈ threeCookies, IsPlainCookie e := by decide +kernel
  obtain ⟨hparse, hstored⟩ := parse_write hplain (by decide)
  have hage : SettingsFault.isAtMostZero DetectionOptions.default.cookieMaxAge = .ok false := by
    decide +kernel
  obtain ⟨c', emitted, hremember, hheaders, hlookup⟩ :=
    hstored [("theme", "dark")] "lingx-lang" "pt-BR" [("Path_2", "a-1")] rfl .default .empty false
      [] [] rfl hage rfl
  have hemitted : emitted = "lingx-lang=pt-BR; path=/; max-age=31536000; SameSite=Lax" := by
    cases hremember
    cases hheaders
    decide +kernel
  subst hemitted
  refine ⟨hparse, c', hremember, hheaders, hlookup _ _ _ ?_⟩
  decide +kernel

end Polyglot.CookieHeader
