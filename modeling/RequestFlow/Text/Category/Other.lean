import RequestFlow.Text.Runs

/-!
# RequestFlow.Text.Category.Other

Separators and control codes, by general category: Zs, Zl, Zp, Cc, Cf and Co.
-/

namespace RequestFlow.Text.Category

def spaceSeparators : Runs := #[
  (0x20, 0x20, 1), (0xA0, 0xA0, 1), (0x1680, 0x1680, 1), (0x2000, 0x200A, 1),
  (0x202F, 0x202F, 1), (0x205F, 0x205F, 1), (0x3000, 0x3000, 1)]

def lineSeparators : Runs := #[
  (0x2028, 0x2028, 1)]

def paragraphSeparators : Runs := #[
  (0x2029, 0x2029, 1)]

def controls : Runs := #[
  (0x0, 0x1F, 1), (0x7F, 0x9F, 1)]

def formats : Runs := #[
  (0xAD, 0xAD, 1), (0x600, 0x605, 1), (0x61C, 0x61C, 1), (0x6DD, 0x6DD, 1), (0x70F, 0x70F, 1),
  (0x890, 0x891, 1), (0x8E2, 0x8E2, 1), (0x180E, 0x180E, 1), (0x200B, 0x200F, 1),
  (0x202A, 0x202E, 1), (0x2060, 0x2064, 1), (0x2066, 0x206F, 1), (0xFEFF, 0xFEFF, 1),
  (0xFFF9, 0xFFFB, 1), (0x110BD, 0x110BD, 1), (0x110CD, 0x110CD, 1), (0x13430, 0x13438, 1),
  (0x1BCA0, 0x1BCA3, 1), (0x1D173, 0x1D17A, 1), (0xE0001, 0xE0001, 1), (0xE0020, 0xE007F, 1)]

def privateUse : Runs := #[
  (0xE000, 0xF8FF, 1), (0xF0000, 0xFFFFD, 1), (0x100000, 0x10FFFD, 1)]

end RequestFlow.Text.Category
