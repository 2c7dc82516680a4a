import Mathlib.Data.List.DropRight
import ReconChat.Proofs.Url.Authority

/-!
Web addresses that are written as a base, a slash and more. They have the scheme, the host and the
port of the base, or they are no addresses at all: spaces that do not count at the end of the base
count in front of the slash, and then they spoil the host. Users, paths and queries are not
considered here.
-/

namespace ReconChat.Url

def endsAuthority (char : Char) : Bool := isSlash true char || char = '?' || char = '#'

def isInHierarchy (char : Char) : Bool := char ≠ '?' && char ≠ '#'

def authorityText (rest : List Char) : List Char :=
  (rest.dropWhile (isSlash true)).takeWhile (!endsAuthority ·)

section

variable {rest : List Char}

theorem goes_on_iff (char : Char) :
    (!endsAuthority char) = true ↔ (!isSlash true char) = true ∧ isInHierarchy char = true := by
  simp [endsAuthority, isInHierarchy, and_assoc]

theorem control_goes_on {char : Char} (control : isControl char = true) :
    endsAuthority char = false := by
  have slash := control_ne control (show 0x20 < '/'.toNat by decide)
  have backslash := control_ne control (show 0x20 < '\\'.toNat by decide)
  have question := control_ne control (show 0x20 < '?'.toNat by decide)
  have number := control_ne control (show 0x20 < '#'.toNat by decide)
  simp [endsAuthority, isSlash, slash, backslash, question, number]

theorem no_slash_authority_text (rest : List Char) : hasNoSlash (authorityText rest) = true := by
  refine List.all_eq_true.2 ?_
  intro char member
  have goesOn : (!endsAuthority char) = true :=
    List.mem_takeWhile_imp (p := (!endsAuthority ·)) member
  exact ((goes_on_iff char).1 goesOn).1

theorem hierarchy_of_split_tail (rest : List Char) :
    (splitTail rest).1 = rest.takeWhile isInHierarchy := by
  change (rest.takeWhile (· ≠ '#')).takeWhile (· ≠ '?') = rest.takeWhile isInHierarchy
  rw [List.takeWhile_takeWhile]
  congr 1
  funext char
  simp [isInHierarchy]

/-- It makes no difference whether the query and the fragment are taken off first. -/
theorem authority_text_of_tail (rest : List Char) :
    ((splitTail rest).1.dropWhile (isSlash true)).takeWhile (!isSlash true ·) =
      authorityText rest := by
  rw [hierarchy_of_split_tail, authorityText]
  induction rest with
  | nil => rfl
  | cons char rest induction =>
      by_cases slash : isSlash true char = true
      · have inside : isInHierarchy char = true := by
          simp only [isInHierarchy, Bool.and_eq_true, decide_eq_true_eq]
          constructor <;> rintro rfl <;> cases slash
        rw [List.takeWhile_cons_of_pos inside, List.dropWhile_cons_of_pos slash,
          List.dropWhile_cons_of_pos slash, induction]
      · have stays : ((char :: rest).takeWhile isInHierarchy).dropWhile (isSlash true) =
            (char :: rest).takeWhile isInHierarchy := by
          rw [List.takeWhile_cons]
          split
          · exact List.dropWhile_cons_of_neg slash
          · rfl
        rw [List.dropWhile_cons_of_neg slash, stays, List.takeWhile_takeWhile]
        congr 1
        funext other
        rw [Bool.eq_iff_iff, decide_eq_true_eq, goes_on_iff]

/-- A slash and more behind an authority leave it as it is, and spaces in front of the slash become
the end of it. -/
theorem authority_text_below {slashes controls : List Char} (more : List Char)
    (allSlashes : ∀ char ∈ slashes, isSlash true char = true)
    (allControls : ∀ char ∈ controls, isControl char = true)
    (present : authorityText (rest ++ slashes) ≠ []) :
    authorityText (rest ++ (controls ++ '/' :: more)) = authorityText (rest ++ slashes) ∨
      authorityText (rest ++ (controls ++ '/' :: more)) =
        authorityText (rest ++ slashes) ++ controls := by
  have slashEnds : slashes.takeWhile (!endsAuthority ·) = [] := by
    cases slashes with
    | nil => rfl
    | cons slash slashes =>
        have isOne := allSlashes slash List.mem_cons_self
        exact List.takeWhile_cons_of_neg (by simp [endsAuthority, isOne])
  have controlsGoOn : (controls ++ '/' :: more).takeWhile (!endsAuthority ·) = controls := by
    rw [List.takeWhile_append_of_pos (fun char member => by
      rw [control_goes_on (allControls char member), Bool.not_false])]
    exact List.append_nil controls
  simp only [authorityText, List.dropWhile_append] at present ⊢
  by_cases nothing : (rest.dropWhile (isSlash true)).isEmpty = true
  · rw [if_pos nothing, List.dropWhile_eq_nil_iff.2 allSlashes] at present
    exact absurd rfl present
  · have taken (behind : List Char) :
        (rest.dropWhile (isSlash true) ++ behind).takeWhile (!endsAuthority ·) =
          if ((rest.dropWhile (isSlash true)).takeWhile (!endsAuthority ·)).length =
              (rest.dropWhile (isSlash true)).length then
            rest.dropWhile (isSlash true) ++ behind.takeWhile (!endsAuthority ·)
          else (rest.dropWhile (isSlash true)).takeWhile (!endsAuthority ·) :=
      List.takeWhile_append
    rw [if_neg nothing, if_neg nothing, taken, taken, slashEnds, controlsGoOn, List.append_nil]
    split
    · exact .inr rfl
    · exact .inl rfl

theorem scheme_after_slashes {scheme : String} {hierarchy : List Char} {tail : Tail} {url : Url}
    (read : afterSlashes scheme hierarchy tail = some url) : url.scheme = scheme := by
  simp only [afterSlashes, Option.bind_eq_bind, Option.bind_eq_some_iff, Option.some.injEq] at read
  obtain ⟨authority, _, rfl⟩ := read
  rfl

theorem scheme_after_file_scheme {hierarchy : List Char} {tail : Tail} {url : Url}
    (read : afterFileScheme hierarchy tail = some url) : url.scheme = "file" := by
  rw [afterFileScheme.eq_def] at read
  split at read
  · split at read
    · obtain ⟨_, _, same⟩ := Option.bind_eq_some_iff.1 read
      cases same
      rfl
    · cases read
      rfl
  · cases read
    rfl

theorem scheme_after_scheme {scheme : String} {url : Url}
    (read : afterScheme scheme rest = some url) : url.scheme = scheme := by
  rw [afterScheme] at read
  dsimp only at read
  split at read
  · exact scheme_after_slashes read
  · split at read
    · next file => exact (scheme_after_file_scheme read).trans file.symm
    · split at read
      · exact scheme_after_slashes read
      · cases read
        rfl
      · cases read
        rfl

theorem host_port_after_scheme {url : Url} (read : afterScheme "http" rest = some url) :
    ∃ host, url.host = some host ∧ hostPort (authorityText rest) = some (host, url.port) := by
  rw [afterScheme] at read
  dsimp only at read
  rw [if_pos (show isWeb "http" = true from rfl)] at read
  simp only [afterSlashes, Option.bind_eq_bind, Option.bind_eq_some_iff, Option.some.injEq] at read
  obtain ⟨authority, read, rfl⟩ := read
  refine ⟨authority.host, rfl, ?_⟩
  rw [← List.takeWhile_append_dropWhile (p := (!isSlash true ·))
    (l := (splitTail rest).1.dropWhile (isSlash true)), authority_text_of_tail] at read
  refine read_authority_host_port (no_slash_authority_text rest) ?_ read
  have stops := List.head?_dropWhile_not (!isSlash true ·)
    ((splitTail rest).1.dropWhile (isSlash true))
  rw [startsPath]
  split at stops
  · next char head =>
      rw [head]
      simpa using stops
  · next head =>
      rw [head]
      rfl

end

section

variable (text more : List Char) (count : Nat)

theorem drop_controls_slash :
    (text ++ '/' :: more).dropWhile isControl = text.dropWhile isControl ++ '/' :: more := by
  rw [List.dropWhile_append]
  split
  · next nothing =>
      rw [List.isEmpty_iff.1 nothing]
      rfl
  · rfl

def isKept (char : Char) : Bool := char != '\t' && char != '\n' && char != '\r'

theorem clean_eq (chars : List Char) :
    clean chars = ((chars.dropWhile isControl).rdropWhile isControl).filter isKept := rfl

theorem clean_slash :
    clean (text ++ '/' :: more) =
      (text.dropWhile isControl).filter isKept ++
        '/' :: (more.rdropWhile isControl).filter isKept := by
  rw [clean_eq, drop_controls_slash, List.rdropWhile, List.reverse_append, List.reverse_cons,
    List.append_assoc, List.singleton_append, drop_controls_slash, List.reverse_append,
    List.reverse_cons, List.reverse_reverse, List.append_assoc, List.singleton_append,
    List.filter_append, List.filter_cons_of_pos (by decide)]
  rfl

theorem clean_below :
    ∃ front slashes controls rest : List Char,
      clean (text ++ List.replicate count '/') = front ++ slashes ∧
      clean (text ++ '/' :: more) = front ++ (controls ++ '/' :: rest) ∧
      (∀ char ∈ slashes, char = '/') ∧ ∀ char ∈ controls, isControl char = true := by
  rw [clean_slash]
  cases count with
  | zero =>
      let trimmed := (text.dropWhile isControl).rdropWhile isControl
      let controls := (text.dropWhile isControl).rtakeWhile isControl
      have whole : trimmed ++ controls = text.dropWhile isControl :=
        List.rdropWhile_append_rtakeWhile
      refine ⟨trimmed.filter isKept, [], controls.filter isKept,
        (more.rdropWhile isControl).filter isKept, ?_, ?_, ?_, ?_⟩
      · rw [List.replicate_zero, List.append_nil, List.append_nil, clean_eq]
      · rw [← whole, List.filter_append, List.append_assoc]
      · intro char member
        cases member
      · intro char member
        exact List.mem_rtakeWhile_imp (List.mem_filter.1 member).1
  | succ count =>
      refine ⟨(text.dropWhile isControl).filter isKept,
        '/' :: ((List.replicate count '/').rdropWhile isControl).filter isKept, [],
        (more.rdropWhile isControl).filter isKept, ?_, rfl, ?_, ?_⟩
      · rw [List.replicate_succ, clean_slash]
      · intro char member
        rcases List.mem_cons.1 member with same | later
        · exact same
        · have inside := (List.rdropWhile_prefix isControl _).subset (List.mem_filter.1 later).1
          exact List.eq_of_mem_replicate inside
      · intro char member
        cases member

end

theorem split_scheme_below {front slashes behind : List Char} {scheme : String}
    (allSlashes : ∀ char ∈ slashes, char = '/')
    (found : splitScheme (front ++ slashes) = some (scheme, behind)) :
    ∃ inner, behind = inner ++ slashes ∧
      ∀ other, splitScheme (front ++ other) = some (scheme, inner ++ other) := by
  have noColon : ':' ∉ slashes := by
    intro member
    have slash := allSlashes ':' member
    exact absurd slash (by decide)
  obtain ⟨name, whole, always⟩ := append_of_split_scheme found
  rcases List.append_eq_append_iff.1 whole with ⟨after, _, inSlashes⟩ | ⟨after, rfl, colon⟩
  · exact absurd (by simp [inSlashes]) noColon
  · cases after with
    | nil =>
        rw [List.nil_append] at colon
        exact absurd (colon ▸ List.mem_cons_self) noColon
    | cons char inner =>
        obtain ⟨rfl, rfl⟩ := List.cons.inj colon
        refine ⟨inner, rfl, ?_⟩
        intro other
        rw [List.append_assoc, List.cons_append, always]

theorem host_port_text_below {inner slashes controls rest host baseHost : List Char}
    {port basePort : Option Nat} (allSlashes : ∀ char ∈ slashes, char = '/')
    (allControls : ∀ char ∈ controls, isControl char = true)
    (baseAddressed : hostPort (authorityText (inner ++ slashes)) = some (baseHost, basePort))
    (addressed : hostPort (authorityText (inner ++ (controls ++ '/' :: rest))) =
      some (host, port)) : host = baseHost ∧ port = basePort := by
  have present : authorityText (inner ++ slashes) ≠ [] := by
    intro nothing
    rw [nothing] at baseAddressed
    cases baseAddressed
  have same : authorityText (inner ++ (controls ++ '/' :: rest)) =
      authorityText (inner ++ slashes) := by
    rcases authority_text_below rest (fun char member => by rw [allSlashes char member]; rfl)
      allControls present with same | spaced
    · exact same
    · rcases List.eq_nil_or_concat controls with rfl | ⟨others, last, rfl⟩
      · rw [spaced, List.append_nil]
      · -- The spaces would be the end of the host.
        have noSlash := no_slash_authority_text (inner ++ (others.concat last ++ '/' :: rest))
        rw [spaced, List.concat_eq_append, ← List.append_assoc] at addressed noSlash
        rw [host_port_control (allControls last (by simp)) noSlash] at addressed
        cases addressed
  rw [same, baseAddressed, Option.some.injEq, Prod.mk.injEq] at addressed
  exact ⟨addressed.1.symm, addressed.2.symm⟩

/-- An address that is written below a base, if it is one, has the scheme, the host and the port
of the base. -/
theorem host_port_below {text more : List Char} {count : Nat} {base url : Url}
    (baseRead : parse (String.ofList (text ++ List.replicate count '/')) = some base)
    (web : base.scheme = "http")
    (read : parse (String.ofList (text ++ '/' :: more)) = some url) :
    url.scheme = "http" ∧ url.host = base.host ∧ url.port = base.port := by
  obtain ⟨front, slashes, controls, rest, baseText, urlText, allSlashes, allControls⟩ :=
    clean_below text more count
  simp only [parse, String.toList_ofList, baseText, urlText, Option.bind_eq_bind,
    Option.bind_eq_some_iff] at baseRead read
  obtain ⟨⟨scheme, behind⟩, found, baseRead⟩ := baseRead
  obtain ⟨⟨sameScheme, below⟩, sameFound, read⟩ := read
  obtain rfl : scheme = "http" := (scheme_after_scheme baseRead).symm.trans web
  obtain ⟨inner, rfl, always⟩ := split_scheme_below allSlashes found
  rw [always] at sameFound
  cases sameFound
  obtain ⟨baseHost, baseHostIs, baseAddressed⟩ := host_port_after_scheme baseRead
  obtain ⟨host, hostIs, addressed⟩ := host_port_after_scheme read
  obtain ⟨sameHost, samePort⟩ :=
    host_port_text_below allSlashes allControls baseAddressed addressed
  exact ⟨scheme_after_scheme read, by rw [hostIs, baseHostIs, sameHost], samePort⟩

end ReconChat.Url
