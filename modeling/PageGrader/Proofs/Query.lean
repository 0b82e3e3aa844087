import PageGrader.Image.Source

namespace PageGrader

namespace Selector

/-- Every selector the standard rules and the image check ask with. -/
def inUse : List String :=
  ["h1", "h1, h2, h3, h4, h5, h6", "header", "nav", "main", "footer", "li", "a", "ul, ol",
   "[href]", "[src]", "[href], [src]", "a[href], link[href]", "img", "img[src]", "button",
   "table, thead, tbody, tfoot, tr, td, th", "u, b, i", "div", "span",
   "header, nav, main, section, article, aside, footer, figure, figcaption", "html", "head", "body",
   "head title", "meta[charset]", "meta[http-equiv]", "meta[name]", "audio", "video"]

theorem isSome_read_of_inUse : ∀ css ∈ inUse, (read? css).isSome = true := by
  decide +kernel

theorem read_of_inUse {css : String} (h : css ∈ inUse) : ∃ sel, read css = .ok sel := by
  obtain ⟨sel, hsel⟩ := Option.isSome_iff_exists.mp (isSome_read_of_inUse css h)
  exact ⟨sel, by rw [read, hsel]⟩

end Selector

def found {α : Type} (result : Except Breakdown (List α)) : List α := result.toOption.getD []

theorem eq_found {α : Type} {result : Except Breakdown (List α)} (h : ∃ l, result = .ok l) :
    result = .ok (found result) := by
  obtain ⟨l, hl⟩ := h
  rw [hl]
  rfl

namespace Document

/-- What a query answers; nothing for a selector that cannot be read. -/
def all (d : Document) (css : String) : List Site := found (d.query css)

theorem query_of_inUse (d : Document) {css : String} (h : css ∈ Selector.inUse) :
    d.query css = .ok (d.all css) := by
  obtain ⟨sel, hsel⟩ := Selector.read_of_inUse h
  have hquery : d.query css = .ok (d.select sel) := by
    rw [query_eq, hsel]
    rfl
  exact eq_found ⟨_, hquery⟩

theorem first_of_inUse (d : Document) {css : String} (h : css ∈ Selector.inUse) :
    d.first? css = .ok (d.all css).head? := by
  rw [first?, askFirst, ← query, query_of_inUse d h]
  rfl

end Document

def Site.below (s : Site) (css : String) : List Site := found (s.query css)

theorem Site.query_of_inUse (s : Site) {css : String} (h : css ∈ Selector.inUse) :
    s.query css = .ok (s.below css) := by
  obtain ⟨sel, hsel⟩ := Selector.read_of_inUse h
  have hquery : s.query css = .ok (s.descendants.filter sel.accepts) := by
    rw [query, hsel]
    rfl
  exact eq_found ⟨_, hquery⟩

/-- The images of a page that name a source, with what they name. -/
theorem Image.sources_eq (d : Document) :
    Image.sources d = .ok ((d.all "img[src]").filterMap fun image =>
      (image.attribute? "src").map fun address =>
        ⟨d.handle image.element, Text.trimmed address⟩) := by
  rw [Image.sources, d.query_of_inUse (by decide)]
  rfl

end PageGrader
