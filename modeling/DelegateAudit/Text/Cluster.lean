import DelegateAudit.Text.Width

/-!
# DelegateAudit — clusters

A terminal does not draw code points one by one. A mark hangs on the character before it, a
joiner draws the code point after it into the character before, and a selector turns a picture
into an emoji, which is wider. What is drawn in one place is a *cluster*.

* `Text.clusters` — the clusters of a text, which make up the text (`clusters_flatMap_text`).
  Texts are cut only between them.
* `Text.width`    — the columns a text takes.

The two differ for a text that starts with a joiner. In the list of clusters it has nothing to
join and stands alone; a text is measured as if a character stood before it.
-/

namespace DelegateAudit

namespace CodePoint

/-- It joins the next code point to what is before. -/
def joiner : CodePoint := .scalar '\u200d'

/-- It asks for the emoji form of the character before. -/
def emojiSelector : CodePoint := .scalar '\ufe0f'

end CodePoint

/-- Code points drawn in one place. -/
structure Cluster where
  text : Text := []
  /-- The columns they take. -/
  width : Nat := 0

namespace Cluster

/-- Put a code point in front, with the columns it adds. -/
def push (c : CodePoint) (columns : Nat) (cluster : Cluster) : Cluster :=
  ⟨c :: cluster.text, columns + cluster.width⟩

/-- The columns of some clusters. -/
def columns : List Cluster → Nat
  | [] => 0
  | cluster :: rest => cluster.width + columns rest

end Cluster

/-- A text in clusters: what hangs on the character that comes before it, and its own clusters. -/
structure Clustering where
  hanging : Cluster := {}
  own : List Cluster := []

namespace Clustering

/-- Put a code point in front that hangs on what comes before. -/
def hang (c : CodePoint) (columns : Nat) (clustering : Clustering) : Clustering :=
  { clustering with hanging := clustering.hanging.push c columns }

/-- Put a code point in front that starts a cluster. -/
def start (c : CodePoint) (clustering : Clustering) : Clustering :=
  { own := clustering.hanging.push c c.width :: clustering.own }

/-- Cut a text into clusters. The last code point before it that takes a column is `shown`, unless
a selector has changed it already. After a joiner, `joined`, the next code point hangs on what
comes before, whatever it is. -/
def ofText : (shown : Option CodePoint) → (joined : Bool) → Text → Clustering
  | _, _, [] => {}
  | shown, true, c :: rest => (ofText shown false rest).hang c 0
  | shown, false, c :: rest =>
    if c = .joiner then (ofText shown true rest).hang c 0
    else if c = .emojiSelector then
      (ofText none false rest).hang c (if shown.any CodePoint.isPicture then 1 else 0)
    else if c.width = 0 then (ofText shown false rest).hang c 0
    else (ofText (some c) false rest).start c

/-- The text that was cut. -/
def text (clustering : Clustering) : Text :=
  clustering.hanging.text ++ clustering.own.flatMap Cluster.text

@[simp] theorem text_hang (c : CodePoint) (columns : Nat) (clustering : Clustering) :
    (clustering.hang c columns).text = c :: clustering.text := rfl

@[simp] theorem text_start (c : CodePoint) (clustering : Clustering) :
    (clustering.start c).text = c :: clustering.text := rfl

/-- Nothing is lost or moved by cutting. -/
theorem text_ofText (shown : Option CodePoint) (joined : Bool) (t : Text) :
    (ofText shown joined t).text = t := by
  induction t generalizing shown joined with
  | nil => cases joined <;> rfl
  | cons c rest ih =>
    cases joined with
    | true => rw [ofText, text_hang, ih]
    | false =>
      unfold ofText
      split
      · rw [text_hang, ih]
      · split
        · rw [text_hang, ih]
        · split
          · rw [text_hang, ih]
          · rw [text_start, ih]

end Clustering

namespace Text

/-- The clusters of a text. Its first code point starts one, whatever it is. -/
def clusters : Text → List Cluster
  | [] => []
  | c :: rest =>
    ((Clustering.ofText (if c.width = 0 then none else some c) false rest).start c).own

/-- The number of columns a text takes. -/
def width (t : Text) : Nat :=
  let clustering := Clustering.ofText none false t
  clustering.hanging.width + Cluster.columns clustering.own

/-- The clusters of a text make up the text. -/
theorem clusters_flatMap_text (t : Text) : t.clusters.flatMap Cluster.text = t := by
  cases t with
  | nil => rfl
  | cons c rest =>
    have h := Clustering.text_ofText (if c.width = 0 then none else some c) false rest
    exact congrArg (c :: ·) h

end Text
end DelegateAudit
