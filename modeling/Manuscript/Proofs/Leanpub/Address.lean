import Manuscript.Leanpub.Export
import Manuscript.Proofs.Path.Absolute

/-!
# Where the image of a file link is found

The path of a file that begins at the root or at a home directory is made absolute. What comes of it
depends on the home and on the current directory, once:

* `exists_imageAddress`: it is the text of a resolved path;
* `imageAddress_toString`: such a text stays as it is;
* `file_addresses_settle`: so it is in normal form, and a link to it is shown with it, in whatever
  environment.
-/

namespace Manuscript.Leanpub

/-- A path that does not begin in the current directory leads to a resolved one. -/
theorem exists_imageAddress (environment : Environment) {path : String}
    (begins : path.toList.head? = some '/' ∨ path.toList.head? = some '~') :
    ∃ resolved : Path, resolved.Resolved ∧
      imageAddress environment ⟨"file", path⟩ = resolved.toString := by
  refine ⟨_, environment.absolute_resolved (environment.expandHome path), ?_⟩
  rcases begins with root | home
  · simp [imageAddress, root]
  · simp [imageAddress, home]

theorem imageAddress_toString (environment : Environment) {path : Path} (resolved : path.Resolved) :
    imageAddress environment ⟨"file", path.toString⟩ = path.toString := by
  have root := resolved.head?_toString
  have address : imageAddress environment ⟨"file", path.toString⟩ =
      (environment.absolute (environment.expandHome path.toString)).toString := by
    simp [imageAddress, root]
  rw [address, environment.expandHome_of_slash root, environment.absolute_toString resolved]

/-- The address of a file's image that will not change any more. -/
structure Settled (address : String) : Prop where
  normal : Path.IsNormal address
  fixed : ∀ environment, imageAddress environment ⟨"file", address⟩ = address
  /-- An image that a link leads to by this address is written with it. -/
  shown : ∀ (x : Export) renderCaption n description,
    linkUse x.options ⟨"file", address⟩ = .image →
      x.link renderCaption n ⟨"file", address⟩ description = do
        return inlineImage address (← renderCaption (x.captionAround n))

/-- **The address of a file that is not given from the current directory is a normal form**, and
stays the same when a link leads to it, whatever the home and the current directory are then. -/
theorem file_addresses_settle (environment : Environment) {path : String}
    (begins : path.toList.head? = some '/' ∨ path.toList.head? = some '~') :
    Settled (imageAddress environment ⟨"file", path⟩) := by
  obtain ⟨resolved, isResolved, address⟩ := exists_imageAddress environment begins
  rw [address]
  refine ⟨isResolved.isNormal, fun _ => imageAddress_toString _ isResolved, ?_⟩
  intro x renderCaption n description image
  simp only [Export.link, image, imageAddress_toString _ isResolved]

/-- A relative home with slashes at its end, a current directory that is not in normal form, and a
path that leads out of the home again. -/
theorem detour_settles :
    "~//../a/./..//b/".toList.head? = some '~' ∧
      imageAddress ⟨"work//", "/srv//book/../."⟩ ⟨"file", "~//../a/./..//b/"⟩ = "/srv/b" ∧
      Settled "/srv/b" := by
  have home : "~//../a/./..//b/".toList.head? = some '~' := by decide
  have address : imageAddress ⟨"work//", "/srv//book/../."⟩ ⟨"file", "~//../a/./..//b/"⟩ =
      "/srv/b" := by decide +kernel
  exact ⟨home, address, address ▸ file_addresses_settle ⟨"work//", "/srv//book/../."⟩ (.inr home)⟩

end Manuscript.Leanpub
