namespace BugArchive.Xml.Charset

/-- The characters of the octets from zero on, as first code points and lengths of runs of
consecutive ones. The code point 0xFFFD stands for octets without a character. -/
abbrev Table := List (Nat × Nat)

namespace Table

def ascii : Table := [(0, 128), (0xFFFD, 128)]

def asianCyrillic : Table := [
  (0, 128), (0x496, 1), (0x492, 1), (0x4EE, 1), (0x493, 1), (0x201E, 1), (0x2026, 1), (0x4B6, 1),
  (0x4AE, 1), (0x4B2, 1), (0x4AF, 1), (0x4A0, 1), (0x4E2, 1), (0x4A2, 1), (0x49A, 1), (0x4BA, 1),
  (0x4B8, 1), (0x497, 1), (0x2018, 2), (0x201C, 2), (0x2022, 1), (0x2013, 2), (0x4B3, 1),
  (0x4B7, 1), (0x4A1, 1), (0x4E3, 1), (0x4A3, 1), (0x49B, 1), (0x4BB, 1), (0x4B9, 1), (0xA0, 1),
  (0x40E, 1), (0x45E, 1), (0x408, 1), (0x4E8, 1), (0x498, 1), (0x4B0, 1), (0xA7, 1), (0x401, 1),
  (0xA9, 1), (0x4D8, 1), (0xAB, 2), (0x4EF, 1), (0xAE, 1), (0x49C, 1), (0xB0, 1), (0x4B1, 1),
  (0x406, 1), (0x456, 1), (0x499, 1), (0x4E9, 1), (0xB6, 2), (0x451, 1), (0x2116, 1), (0x4D9, 1),
  (0xBB, 1), (0x458, 1), (0x4AA, 2), (0x49D, 1), (0x410, 64)]

def codePage437 : Table := [
  (0, 128), (0xC7, 1), (0xFC, 1), (0xE9, 1), (0xE2, 1), (0xE4, 1), (0xE0, 1), (0xE5, 1), (0xE7, 1),
  (0xEA, 2), (0xE8, 1), (0xEF, 1), (0xEE, 1), (0xEC, 1), (0xC4, 2), (0xC9, 1), (0xE6, 1),
  (0xC6, 1), (0xF4, 1), (0xF6, 1), (0xF2, 1), (0xFB, 1), (0xF9, 1), (0xFF, 1), (0xD6, 1),
  (0xDC, 1), (0xA2, 2), (0xA5, 1), (0x20A7, 1), (0x192, 1), (0xE1, 1), (0xED, 1), (0xF3, 1),
  (0xFA, 1), (0xF1, 1), (0xD1, 1), (0xAA, 1), (0xBA, 1), (0xBF, 1), (0x2310, 1), (0xAC, 1),
  (0xBD, 1), (0xBC, 1), (0xA1, 1), (0xAB, 1), (0xBB, 1), (0x2591, 3), (0x2502, 1), (0x2524, 1),
  (0x2561, 2), (0x2556, 1), (0x2555, 1), (0x2563, 1), (0x2551, 1), (0x2557, 1), (0x255D, 1),
  (0x255C, 1), (0x255B, 1), (0x2510, 1), (0x2514, 1), (0x2534, 1), (0x252C, 1), (0x251C, 1),
  (0x2500, 1), (0x253C, 1), (0x255E, 2), (0x255A, 1), (0x2554, 1), (0x2569, 1), (0x2566, 1),
  (0x2560, 1), (0x2550, 1), (0x256C, 1), (0x2567, 2), (0x2564, 2), (0x2559, 1), (0x2558, 1),
  (0x2552, 2), (0x256B, 1), (0x256A, 1), (0x2518, 1), (0x250C, 1), (0x2588, 1), (0x2584, 1),
  (0x258C, 1), (0x2590, 1), (0x2580, 1), (0x3B1, 1), (0xDF, 1), (0x393, 1), (0x3C0, 1), (0x3A3, 1),
  (0x3C3, 1), (0xB5, 1), (0x3C4, 1), (0x3A6, 1), (0x398, 1), (0x3A9, 1), (0x3B4, 1), (0x221E, 1),
  (0x3C6, 1), (0x3B5, 1), (0x2229, 1), (0x2261, 1), (0xB1, 1), (0x2265, 1), (0x2264, 1),
  (0x2320, 2), (0xF7, 1), (0x2248, 1), (0xB0, 1), (0x2219, 1), (0xB7, 1), (0x221A, 1), (0x207F, 1),
  (0xB2, 1), (0x25A0, 1), (0xA0, 1)]

def codePage720 : Table := [
  (0, 130), (0xE9, 1), (0xE2, 1), (0x84, 1), (0xE0, 1), (0x86, 1), (0xE7, 1), (0xEA, 2), (0xE8, 1),
  (0xEF, 1), (0xEE, 1), (0x8D, 4), (0x651, 2), (0xF4, 1), (0xA4, 1), (0x640, 1), (0xFB, 1),
  (0xF9, 1), (0x621, 4), (0xA3, 1), (0x625, 17), (0xAB, 1), (0xBB, 1), (0x2591, 3), (0x2502, 1),
  (0x2524, 1), (0x2561, 2), (0x2556, 1), (0x2555, 1), (0x2563, 1), (0x2551, 1), (0x2557, 1),
  (0x255D, 1), (0x255C, 1), (0x255B, 1), (0x2510, 1), (0x2514, 1), (0x2534, 1), (0x252C, 1),
  (0x251C, 1), (0x2500, 1), (0x253C, 1), (0x255E, 2), (0x255A, 1), (0x2554, 1), (0x2569, 1),
  (0x2566, 1), (0x2560, 1), (0x2550, 1), (0x256C, 1), (0x2567, 2), (0x2564, 2), (0x2559, 1),
  (0x2558, 1), (0x2552, 2), (0x256B, 1), (0x256A, 1), (0x2518, 1), (0x250C, 1), (0x2588, 1),
  (0x2584, 1), (0x258C, 1), (0x2590, 1), (0x2580, 1), (0x636, 5), (0x641, 1), (0xB5, 1),
  (0x642, 9), (0x2261, 1), (0x64B, 6), (0x2248, 1), (0xB0, 1), (0x2219, 1), (0xB7, 1), (0x221A, 1),
  (0x207F, 1), (0xB2, 1), (0x25A0, 1), (0xA0, 1)]

def codePage737 : Table := [
  (0, 128), (0x391, 17), (0x3A3, 7), (0x3B1, 17), (0x3C3, 1), (0x3C2, 1), (0x3C4, 5), (0x2591, 3),
  (0x2502, 1), (0x2524, 1), (0x2561, 2), (0x2556, 1), (0x2555, 1), (0x2563, 1), (0x2551, 1),
  (0x2557, 1), (0x255D, 1), (0x255C, 1), (0x255B, 1), (0x2510, 1), (0x2514, 1), (0x2534, 1),
  (0x252C, 1), (0x251C, 1), (0x2500, 1), (0x253C, 1), (0x255E, 2), (0x255A, 1), (0x2554, 1),
  (0x2569, 1), (0x2566, 1), (0x2560, 1), (0x2550, 1), (0x256C, 1), (0x2567, 2), (0x2564, 2),
  (0x2559, 1), (0x2558, 1), (0x2552, 2), (0x256B, 1), (0x256A, 1), (0x2518, 1), (0x250C, 1),
  (0x2588, 1), (0x2584, 1), (0x258C, 1), (0x2590, 1), (0x2580, 1), (0x3C9, 1), (0x3AC, 3),
  (0x3CA, 1), (0x3AF, 1), (0x3CC, 2), (0x3CB, 1), (0x3CE, 1), (0x386, 1), (0x388, 3), (0x38C, 1),
  (0x38E, 2), (0xB1, 1), (0x2265, 1), (0x2264, 1), (0x3AA, 2), (0xF7, 1), (0x2248, 1), (0xB0, 1),
  (0x2219, 1), (0xB7, 1), (0x221A, 1), (0x207F, 1), (0xB2, 1), (0x25A0, 1), (0xA0, 1)]

def codePage775 : Table := [
  (0, 128), (0x106, 1), (0xFC, 1), (0xE9, 1), (0x101, 1), (0xE4, 1), (0x123, 1), (0xE5, 1),
  (0x107, 1), (0x142, 1), (0x113, 1), (0x156, 2), (0x12B, 1), (0x179, 1), (0xC4, 2), (0xC9, 1),
  (0xE6, 1), (0xC6, 1), (0x14D, 1), (0xF6, 1), (0x122, 1), (0xA2, 1), (0x15A, 2), (0xD6, 1),
  (0xDC, 1), (0xF8, 1), (0xA3, 1), (0xD8, 1), (0xD7, 1), (0xA4, 1), (0x100, 1), (0x12A, 1),
  (0xF3, 1), (0x17B, 2), (0x17A, 1), (0x201D, 1), (0xA6, 1), (0xA9, 1), (0xAE, 1), (0xAC, 1),
  (0xBD, 1), (0xBC, 1), (0x141, 1), (0xAB, 1), (0xBB, 1), (0x2591, 3), (0x2502, 1), (0x2524, 1),
  (0x104, 1), (0x10C, 1), (0x118, 1), (0x116, 1), (0x2563, 1), (0x2551, 1), (0x2557, 1),
  (0x255D, 1), (0x12E, 1), (0x160, 1), (0x2510, 1), (0x2514, 1), (0x2534, 1), (0x252C, 1),
  (0x251C, 1), (0x2500, 1), (0x253C, 1), (0x172, 1), (0x16A, 1), (0x255A, 1), (0x2554, 1),
  (0x2569, 1), (0x2566, 1), (0x2560, 1), (0x2550, 1), (0x256C, 1), (0x17D, 1), (0x105, 1),
  (0x10D, 1), (0x119, 1), (0x117, 1), (0x12F, 1), (0x161, 1), (0x173, 1), (0x16B, 1), (0x17E, 1),
  (0x2518, 1), (0x250C, 1), (0x2588, 1), (0x2584, 1), (0x258C, 1), (0x2590, 1), (0x2580, 1),
  (0xD3, 1), (0xDF, 1), (0x14C, 1), (0x143, 1), (0xF5, 1), (0xD5, 1), (0xB5, 1), (0x144, 1),
  (0x136, 2), (0x13B, 2), (0x146, 1), (0x112, 1), (0x145, 1), (0x2019, 1), (0xAD, 1), (0xB1, 1),
  (0x201C, 1), (0xBE, 1), (0xB6, 1), (0xA7, 1), (0xF7, 1), (0x201E, 1), (0xB0, 1), (0x2219, 1),
  (0xB7, 1), (0xB9, 1), (0xB3, 1), (0xB2, 1), (0x25A0, 1), (0xA0, 1)]

def codePage850 : Table := [
  (0, 128), (0xC7, 1), (0xFC, 1), (0xE9, 1), (0xE2, 1), (0xE4, 1), (0xE0, 1), (0xE5, 1), (0xE7, 1),
  (0xEA, 2), (0xE8, 1), (0xEF, 1), (0xEE, 1), (0xEC, 1), (0xC4, 2), (0xC9, 1), (0xE6, 1),
  (0xC6, 1), (0xF4, 1), (0xF6, 1), (0xF2, 1), (0xFB, 1), (0xF9, 1), (0xFF, 1), (0xD6, 1),
  (0xDC, 1), (0xF8, 1), (0xA3, 1), (0xD8, 1), (0xD7, 1), (0x192, 1), (0xE1, 1), (0xED, 1),
  (0xF3, 1), (0xFA, 1), (0xF1, 1), (0xD1, 1), (0xAA, 1), (0xBA, 1), (0xBF, 1), (0xAE, 1),
  (0xAC, 1), (0xBD, 1), (0xBC, 1), (0xA1, 1), (0xAB, 1), (0xBB, 1), (0x2591, 3), (0x2502, 1),
  (0x2524, 1), (0xC1, 2), (0xC0, 1), (0xA9, 1), (0x2563, 1), (0x2551, 1), (0x2557, 1), (0x255D, 1),
  (0xA2, 1), (0xA5, 1), (0x2510, 1), (0x2514, 1), (0x2534, 1), (0x252C, 1), (0x251C, 1),
  (0x2500, 1), (0x253C, 1), (0xE3, 1), (0xC3, 1), (0x255A, 1), (0x2554, 1), (0x2569, 1),
  (0x2566, 1), (0x2560, 1), (0x2550, 1), (0x256C, 1), (0xA4, 1), (0xF0, 1), (0xD0, 1), (0xCA, 2),
  (0xC8, 1), (0x131, 1), (0xCD, 3), (0x2518, 1), (0x250C, 1), (0x2588, 1), (0x2584, 1), (0xA6, 1),
  (0xCC, 1), (0x2580, 1), (0xD3, 1), (0xDF, 1), (0xD4, 1), (0xD2, 1), (0xF5, 1), (0xD5, 1),
  (0xB5, 1), (0xFE, 1), (0xDE, 1), (0xDA, 2), (0xD9, 1), (0xFD, 1), (0xDD, 1), (0xAF, 1),
  (0xB4, 1), (0xAD, 1), (0xB1, 1), (0x2017, 1), (0xBE, 1), (0xB6, 1), (0xA7, 1), (0xF7, 1),
  (0xB8, 1), (0xB0, 1), (0xA8, 1), (0xB7, 1), (0xB9, 1), (0xB3, 1), (0xB2, 1), (0x25A0, 1),
  (0xA0, 1)]

def codePage852 : Table := [
  (0, 128), (0xC7, 1), (0xFC, 1), (0xE9, 1), (0xE2, 1), (0xE4, 1), (0x16F, 1), (0x107, 1),
  (0xE7, 1), (0x142, 1), (0xEB, 1), (0x150, 2), (0xEE, 1), (0x179, 1), (0xC4, 1), (0x106, 1),
  (0xC9, 1), (0x139, 2), (0xF4, 1), (0xF6, 1), (0x13D, 2), (0x15A, 2), (0xD6, 1), (0xDC, 1),
  (0x164, 2), (0x141, 1), (0xD7, 1), (0x10D, 1), (0xE1, 1), (0xED, 1), (0xF3, 1), (0xFA, 1),
  (0x104, 2), (0x17D, 2), (0x118, 2), (0xAC, 1), (0x17A, 1), (0x10C, 1), (0x15F, 1), (0xAB, 1),
  (0xBB, 1), (0x2591, 3), (0x2502, 1), (0x2524, 1), (0xC1, 2), (0x11A, 1), (0x15E, 1), (0x2563, 1),
  (0x2551, 1), (0x2557, 1), (0x255D, 1), (0x17B, 2), (0x2510, 1), (0x2514, 1), (0x2534, 1),
  (0x252C, 1), (0x251C, 1), (0x2500, 1), (0x253C, 1), (0x102, 2), (0x255A, 1), (0x2554, 1),
  (0x2569, 1), (0x2566, 1), (0x2560, 1), (0x2550, 1), (0x256C, 1), (0xA4, 1), (0x111, 1),
  (0x110, 1), (0x10E, 1), (0xCB, 1), (0x10F, 1), (0x147, 1), (0xCD, 2), (0x11B, 1), (0x2518, 1),
  (0x250C, 1), (0x2588, 1), (0x2584, 1), (0x162, 1), (0x16E, 1), (0x2580, 1), (0xD3, 1), (0xDF, 1),
  (0xD4, 1), (0x143, 2), (0x148, 1), (0x160, 2), (0x154, 1), (0xDA, 1), (0x155, 1), (0x170, 1),
  (0xFD, 1), (0xDD, 1), (0x163, 1), (0xB4, 1), (0xAD, 1), (0x2DD, 1), (0x2DB, 1), (0x2C7, 1),
  (0x2D8, 1), (0xA7, 1), (0xF7, 1), (0xB8, 1), (0xB0, 1), (0xA8, 1), (0x2D9, 1), (0x171, 1),
  (0x158, 2), (0x25A0, 1), (0xA0, 1)]

def codePage855 : Table := [
  (0, 128), (0x452, 1), (0x402, 1), (0x453, 1), (0x403, 1), (0x451, 1), (0x401, 1), (0x454, 1),
  (0x404, 1), (0x455, 1), (0x405, 1), (0x456, 1), (0x406, 1), (0x457, 1), (0x407, 1), (0x458, 1),
  (0x408, 1), (0x459, 1), (0x409, 1), (0x45A, 1), (0x40A, 1), (0x45B, 1), (0x40B, 1), (0x45C, 1),
  (0x40C, 1), (0x45E, 1), (0x40E, 1), (0x45F, 1), (0x40F, 1), (0x44E, 1), (0x42E, 1), (0x44A, 1),
  (0x42A, 1), (0x430, 1), (0x410, 1), (0x431, 1), (0x411, 1), (0x446, 1), (0x426, 1), (0x434, 1),
  (0x414, 1), (0x435, 1), (0x415, 1), (0x444, 1), (0x424, 1), (0x433, 1), (0x413, 1), (0xAB, 1),
  (0xBB, 1), (0x2591, 3), (0x2502, 1), (0x2524, 1), (0x445, 1), (0x425, 1), (0x438, 1), (0x418, 1),
  (0x2563, 1), (0x2551, 1), (0x2557, 1), (0x255D, 1), (0x439, 1), (0x419, 1), (0x2510, 1),
  (0x2514, 1), (0x2534, 1), (0x252C, 1), (0x251C, 1), (0x2500, 1), (0x253C, 1), (0x43A, 1),
  (0x41A, 1), (0x255A, 1), (0x2554, 1), (0x2569, 1), (0x2566, 1), (0x2560, 1), (0x2550, 1),
  (0x256C, 1), (0xA4, 1), (0x43B, 1), (0x41B, 1), (0x43C, 1), (0x41C, 1), (0x43D, 1), (0x41D, 1),
  (0x43E, 1), (0x41E, 1), (0x43F, 1), (0x2518, 1), (0x250C, 1), (0x2588, 1), (0x2584, 1),
  (0x41F, 1), (0x44F, 1), (0x2580, 1), (0x42F, 1), (0x440, 1), (0x420, 1), (0x441, 1), (0x421, 1),
  (0x442, 1), (0x422, 1), (0x443, 1), (0x423, 1), (0x436, 1), (0x416, 1), (0x432, 1), (0x412, 1),
  (0x44C, 1), (0x42C, 1), (0x2116, 1), (0xAD, 1), (0x44B, 1), (0x42B, 1), (0x437, 1), (0x417, 1),
  (0x448, 1), (0x428, 1), (0x44D, 1), (0x42D, 1), (0x449, 1), (0x429, 1), (0x447, 1), (0x427, 1),
  (0xA7, 1), (0x25A0, 1), (0xA0, 1)]

def codePage856 : Table := [
  (0, 128), (0x5D0, 27), (0xFFFD, 1), (0xA3, 1), (0xFFFD, 1), (0xD7, 1), (0xFFFD, 10), (0xAE, 1),
  (0xAC, 1), (0xBD, 1), (0xBC, 1), (0xFFFD, 1), (0xAB, 1), (0xBB, 1), (0x2591, 3), (0x2502, 1),
  (0x2524, 1), (0xFFFD, 3), (0xA9, 1), (0x2563, 1), (0x2551, 1), (0x2557, 1), (0x255D, 1),
  (0xA2, 1), (0xA5, 1), (0x2510, 1), (0x2514, 1), (0x2534, 1), (0x252C, 1), (0x251C, 1),
  (0x2500, 1), (0x253C, 1), (0xFFFD, 2), (0x255A, 1), (0x2554, 1), (0x2569, 1), (0x2566, 1),
  (0x2560, 1), (0x2550, 1), (0x256C, 1), (0xA4, 1), (0xFFFD, 9), (0x2518, 1), (0x250C, 1),
  (0x2588, 1), (0x2584, 1), (0xA6, 1), (0xFFFD, 1), (0x2580, 1), (0xFFFD, 6), (0xB5, 1),
  (0xFFFD, 7), (0xAF, 1), (0xB4, 1), (0xAD, 1), (0xB1, 1), (0x2017, 1), (0xBE, 1), (0xB6, 1),
  (0xA7, 1), (0xF7, 1), (0xB8, 1), (0xB0, 1), (0xA8, 1), (0xB7, 1), (0xB9, 1), (0xB3, 1),
  (0xB2, 1), (0x25A0, 1), (0xA0, 1)]

def codePage857 : Table := [
  (0, 128), (0xC7, 1), (0xFC, 1), (0xE9, 1), (0xE2, 1), (0xE4, 1), (0xE0, 1), (0xE5, 1), (0xE7, 1),
  (0xEA, 2), (0xE8, 1), (0xEF, 1), (0xEE, 1), (0x131, 1), (0xC4, 2), (0xC9, 1), (0xE6, 1),
  (0xC6, 1), (0xF4, 1), (0xF6, 1), (0xF2, 1), (0xFB, 1), (0xF9, 1), (0x130, 1), (0xD6, 1),
  (0xDC, 1), (0xF8, 1), (0xA3, 1), (0xD8, 1), (0x15E, 2), (0xE1, 1), (0xED, 1), (0xF3, 1),
  (0xFA, 1), (0xF1, 1), (0xD1, 1), (0x11E, 2), (0xBF, 1), (0xAE, 1), (0xAC, 1), (0xBD, 1),
  (0xBC, 1), (0xA1, 1), (0xAB, 1), (0xBB, 1), (0x2591, 3), (0x2502, 1), (0x2524, 1), (0xC1, 2),
  (0xC0, 1), (0xA9, 1), (0x2563, 1), (0x2551, 1), (0x2557, 1), (0x255D, 1), (0xA2, 1), (0xA5, 1),
  (0x2510, 1), (0x2514, 1), (0x2534, 1), (0x252C, 1), (0x251C, 1), (0x2500, 1), (0x253C, 1),
  (0xE3, 1), (0xC3, 1), (0x255A, 1), (0x2554, 1), (0x2569, 1), (0x2566, 1), (0x2560, 1),
  (0x2550, 1), (0x256C, 1), (0xA4, 1), (0xBA, 1), (0xAA, 1), (0xCA, 2), (0xC8, 1), (0xFFFD, 1),
  (0xCD, 3), (0x2518, 1), (0x250C, 1), (0x2588, 1), (0x2584, 1), (0xA6, 1), (0xCC, 1), (0x2580, 1),
  (0xD3, 1), (0xDF, 1), (0xD4, 1), (0xD2, 1), (0xF5, 1), (0xD5, 1), (0xB5, 1), (0xFFFD, 1),
  (0xD7, 1), (0xDA, 2), (0xD9, 1), (0xEC, 1), (0xFF, 1), (0xAF, 1), (0xB4, 1), (0xAD, 1),
  (0xB1, 1), (0xFFFD, 1), (0xBE, 1), (0xB6, 1), (0xA7, 1), (0xF7, 1), (0xB8, 1), (0xB0, 1),
  (0xA8, 1), (0xB7, 1), (0xB9, 1), (0xB3, 1), (0xB2, 1), (0x25A0, 1), (0xA0, 1)]

def codePage858 : Table := [
  (0, 128), (0xC7, 1), (0xFC, 1), (0xE9, 1), (0xE2, 1), (0xE4, 1), (0xE0, 1), (0xE5, 1), (0xE7, 1),
  (0xEA, 2), (0xE8, 1), (0xEF, 1), (0xEE, 1), (0xEC, 1), (0xC4, 2), (0xC9, 1), (0xE6, 1),
  (0xC6, 1), (0xF4, 1), (0xF6, 1), (0xF2, 1), (0xFB, 1), (0xF9, 1), (0xFF, 1), (0xD6, 1),
  (0xDC, 1), (0xF8, 1), (0xA3, 1), (0xD8, 1), (0xD7, 1), (0x192, 1), (0xE1, 1), (0xED, 1),
  (0xF3, 1), (0xFA, 1), (0xF1, 1), (0xD1, 1), (0xAA, 1), (0xBA, 1), (0xBF, 1), (0xAE, 1),
  (0xAC, 1), (0xBD, 1), (0xBC, 1), (0xA1, 1), (0xAB, 1), (0xBB, 1), (0x2591, 3), (0x2502, 1),
  (0x2524, 1), (0xC1, 2), (0xC0, 1), (0xA9, 1), (0x2563, 1), (0x2551, 1), (0x2557, 1), (0x255D, 1),
  (0xA2, 1), (0xA5, 1), (0x2510, 1), (0x2514, 1), (0x2534, 1), (0x252C, 1), (0x251C, 1),
  (0x2500, 1), (0x253C, 1), (0xE3, 1), (0xC3, 1), (0x255A, 1), (0x2554, 1), (0x2569, 1),
  (0x2566, 1), (0x2560, 1), (0x2550, 1), (0x256C, 1), (0xA4, 1), (0xF0, 1), (0xD0, 1), (0xCA, 2),
  (0xC8, 1), (0x20AC, 1), (0xCD, 3), (0x2518, 1), (0x250C, 1), (0x2588, 1), (0x2584, 1), (0xA6, 1),
  (0xCC, 1), (0x2580, 1), (0xD3, 1), (0xDF, 1), (0xD4, 1), (0xD2, 1), (0xF5, 1), (0xD5, 1),
  (0xB5, 1), (0xFE, 1), (0xDE, 1), (0xDA, 2), (0xD9, 1), (0xFD, 1), (0xDD, 1), (0xAF, 1),
  (0xB4, 1), (0xAD, 1), (0xB1, 1), (0x2017, 1), (0xBE, 1), (0xB6, 1), (0xA7, 1), (0xF7, 1),
  (0xB8, 1), (0xB0, 1), (0xA8, 1), (0xB7, 1), (0xB9, 1), (0xB3, 1), (0xB2, 1), (0x25A0, 1),
  (0xA0, 1)]

def codePage860 : Table := [
  (0, 128), (0xC7, 1), (0xFC, 1), (0xE9, 1), (0xE2, 2), (0xE0, 1), (0xC1, 1), (0xE7, 1), (0xEA, 1),
  (0xCA, 1), (0xE8, 1), (0xCD, 1), (0xD4, 1), (0xEC, 1), (0xC3, 1), (0xC2, 1), (0xC9, 1),
  (0xC0, 1), (0xC8, 1), (0xF4, 2), (0xF2, 1), (0xDA, 1), (0xF9, 1), (0xCC, 1), (0xD5, 1),
  (0xDC, 1), (0xA2, 2), (0xD9, 1), (0x20A7, 1), (0xD3, 1), (0xE1, 1), (0xED, 1), (0xF3, 1),
  (0xFA, 1), (0xF1, 1), (0xD1, 1), (0xAA, 1), (0xBA, 1), (0xBF, 1), (0xD2, 1), (0xAC, 1),
  (0xBD, 1), (0xBC, 1), (0xA1, 1), (0xAB, 1), (0xBB, 1), (0x2591, 3), (0x2502, 1), (0x2524, 1),
  (0x2561, 2), (0x2556, 1), (0x2555, 1), (0x2563, 1), (0x2551, 1), (0x2557, 1), (0x255D, 1),
  (0x255C, 1), (0x255B, 1), (0x2510, 1), (0x2514, 1), (0x2534, 1), (0x252C, 1), (0x251C, 1),
  (0x2500, 1), (0x253C, 1), (0x255E, 2), (0x255A, 1), (0x2554, 1), (0x2569, 1), (0x2566, 1),
  (0x2560, 1), (0x2550, 1), (0x256C, 1), (0x2567, 2), (0x2564, 2), (0x2559, 1), (0x2558, 1),
  (0x2552, 2), (0x256B, 1), (0x256A, 1), (0x2518, 1), (0x250C, 1), (0x2588, 1), (0x2584, 1),
  (0x258C, 1), (0x2590, 1), (0x2580, 1), (0x3B1, 1), (0xDF, 1), (0x393, 1), (0x3C0, 1), (0x3A3, 1),
  (0x3C3, 1), (0xB5, 1), (0x3C4, 1), (0x3A6, 1), (0x398, 1), (0x3A9, 1), (0x3B4, 1), (0x221E, 1),
  (0x3C6, 1), (0x3B5, 1), (0x2229, 1), (0x2261, 1), (0xB1, 1), (0x2265, 1), (0x2264, 1),
  (0x2320, 2), (0xF7, 1), (0x2248, 1), (0xB0, 1), (0x2219, 1), (0xB7, 1), (0x221A, 1), (0x207F, 1),
  (0xB2, 1), (0x25A0, 1), (0xA0, 1)]

def codePage861 : Table := [
  (0, 128), (0xC7, 1), (0xFC, 1), (0xE9, 1), (0xE2, 1), (0xE4, 1), (0xE0, 1), (0xE5, 1), (0xE7, 1),
  (0xEA, 2), (0xE8, 1), (0xD0, 1), (0xF0, 1), (0xDE, 1), (0xC4, 2), (0xC9, 1), (0xE6, 1),
  (0xC6, 1), (0xF4, 1), (0xF6, 1), (0xFE, 1), (0xFB, 1), (0xDD, 1), (0xFD, 1), (0xD6, 1),
  (0xDC, 1), (0xF8, 1), (0xA3, 1), (0xD8, 1), (0x20A7, 1), (0x192, 1), (0xE1, 1), (0xED, 1),
  (0xF3, 1), (0xFA, 1), (0xC1, 1), (0xCD, 1), (0xD3, 1), (0xDA, 1), (0xBF, 1), (0x2310, 1),
  (0xAC, 1), (0xBD, 1), (0xBC, 1), (0xA1, 1), (0xAB, 1), (0xBB, 1), (0x2591, 3), (0x2502, 1),
  (0x2524, 1), (0x2561, 2), (0x2556, 1), (0x2555, 1), (0x2563, 1), (0x2551, 1), (0x2557, 1),
  (0x255D, 1), (0x255C, 1), (0x255B, 1), (0x2510, 1), (0x2514, 1), (0x2534, 1), (0x252C, 1),
  (0x251C, 1), (0x2500, 1), (0x253C, 1), (0x255E, 2), (0x255A, 1), (0x2554, 1), (0x2569, 1),
  (0x2566, 1), (0x2560, 1), (0x2550, 1), (0x256C, 1), (0x2567, 2), (0x2564, 2), (0x2559, 1),
  (0x2558, 1), (0x2552, 2), (0x256B, 1), (0x256A, 1), (0x2518, 1), (0x250C, 1), (0x2588, 1),
  (0x2584, 1), (0x258C, 1), (0x2590, 1), (0x2580, 1), (0x3B1, 1), (0xDF, 1), (0x393, 1),
  (0x3C0, 1), (0x3A3, 1), (0x3C3, 1), (0xB5, 1), (0x3C4, 1), (0x3A6, 1), (0x398, 1), (0x3A9, 1),
  (0x3B4, 1), (0x221E, 1), (0x3C6, 1), (0x3B5, 1), (0x2229, 1), (0x2261, 1), (0xB1, 1),
  (0x2265, 1), (0x2264, 1), (0x2320, 2), (0xF7, 1), (0x2248, 1), (0xB0, 1), (0x2219, 1), (0xB7, 1),
  (0x221A, 1), (0x207F, 1), (0xB2, 1), (0x25A0, 1), (0xA0, 1)]

def codePage862 : Table := [
  (0, 128), (0x5D0, 27), (0xA2, 2), (0xA5, 1), (0x20A7, 1), (0x192, 1), (0xE1, 1), (0xED, 1),
  (0xF3, 1), (0xFA, 1), (0xF1, 1), (0xD1, 1), (0xAA, 1), (0xBA, 1), (0xBF, 1), (0x2310, 1),
  (0xAC, 1), (0xBD, 1), (0xBC, 1), (0xA1, 1), (0xAB, 1), (0xBB, 1), (0x2591, 3), (0x2502, 1),
  (0x2524, 1), (0x2561, 2), (0x2556, 1), (0x2555, 1), (0x2563, 1), (0x2551, 1), (0x2557, 1),
  (0x255D, 1), (0x255C, 1), (0x255B, 1), (0x2510, 1), (0x2514, 1), (0x2534, 1), (0x252C, 1),
  (0x251C, 1), (0x2500, 1), (0x253C, 1), (0x255E, 2), (0x255A, 1), (0x2554, 1), (0x2569, 1),
  (0x2566, 1), (0x2560, 1), (0x2550, 1), (0x256C, 1), (0x2567, 2), (0x2564, 2), (0x2559, 1),
  (0x2558, 1), (0x2552, 2), (0x256B, 1), (0x256A, 1), (0x2518, 1), (0x250C, 1), (0x2588, 1),
  (0x2584, 1), (0x258C, 1), (0x2590, 1), (0x2580, 1), (0x3B1, 1), (0xDF, 1), (0x393, 1),
  (0x3C0, 1), (0x3A3, 1), (0x3C3, 1), (0xB5, 1), (0x3C4, 1), (0x3A6, 1), (0x398, 1), (0x3A9, 1),
  (0x3B4, 1), (0x221E, 1), (0x3C6, 1), (0x3B5, 1), (0x2229, 1), (0x2261, 1), (0xB1, 1),
  (0x2265, 1), (0x2264, 1), (0x2320, 2), (0xF7, 1), (0x2248, 1), (0xB0, 1), (0x2219, 1), (0xB7, 1),
  (0x221A, 1), (0x207F, 1), (0xB2, 1), (0x25A0, 1), (0xA0, 1)]

def codePage863 : Table := [
  (0, 128), (0xC7, 1), (0xFC, 1), (0xE9, 1), (0xE2, 1), (0xC2, 1), (0xE0, 1), (0xB6, 1), (0xE7, 1),
  (0xEA, 2), (0xE8, 1), (0xEF, 1), (0xEE, 1), (0x2017, 1), (0xC0, 1), (0xA7, 1), (0xC9, 1),
  (0xC8, 1), (0xCA, 1), (0xF4, 1), (0xCB, 1), (0xCF, 1), (0xFB, 1), (0xF9, 1), (0xA4, 1),
  (0xD4, 1), (0xDC, 1), (0xA2, 2), (0xD9, 1), (0xDB, 1), (0x192, 1), (0xA6, 1), (0xB4, 1),
  (0xF3, 1), (0xFA, 1), (0xA8, 1), (0xB8, 1), (0xB3, 1), (0xAF, 1), (0xCE, 1), (0x2310, 1),
  (0xAC, 1), (0xBD, 1), (0xBC, 1), (0xBE, 1), (0xAB, 1), (0xBB, 1), (0x2591, 3), (0x2502, 1),
  (0x2524, 1), (0x2561, 2), (0x2556, 1), (0x2555, 1), (0x2563, 1), (0x2551, 1), (0x2557, 1),
  (0x255D, 1), (0x255C, 1), (0x255B, 1), (0x2510, 1), (0x2514, 1), (0x2534, 1), (0x252C, 1),
  (0x251C, 1), (0x2500, 1), (0x253C, 1), (0x255E, 2), (0x255A, 1), (0x2554, 1), (0x2569, 1),
  (0x2566, 1), (0x2560, 1), (0x2550, 1), (0x256C, 1), (0x2567, 2), (0x2564, 2), (0x2559, 1),
  (0x2558, 1), (0x2552, 2), (0x256B, 1), (0x256A, 1), (0x2518, 1), (0x250C, 1), (0x2588, 1),
  (0x2584, 1), (0x258C, 1), (0x2590, 1), (0x2580, 1), (0x3B1, 1), (0xDF, 1), (0x393, 1),
  (0x3C0, 1), (0x3A3, 1), (0x3C3, 1), (0xB5, 1), (0x3C4, 1), (0x3A6, 1), (0x398, 1), (0x3A9, 1),
  (0x3B4, 1), (0x221E, 1), (0x3C6, 1), (0x3B5, 1), (0x2229, 1), (0x2261, 1), (0xB1, 1),
  (0x2265, 1), (0x2264, 1), (0x2320, 2), (0xF7, 1), (0x2248, 1), (0xB0, 1), (0x2219, 1), (0xB7, 1),
  (0x221A, 1), (0x207F, 1), (0xB2, 1), (0x25A0, 1), (0xA0, 1)]

def codePage865 : Table := [
  (0, 128), (0xC7, 1), (0xFC, 1), (0xE9, 1), (0xE2, 1), (0xE4, 1), (0xE0, 1), (0xE5, 1), (0xE7, 1),
  (0xEA, 2), (0xE8, 1), (0xEF, 1), (0xEE, 1), (0xEC, 1), (0xC4, 2), (0xC9, 1), (0xE6, 1),
  (0xC6, 1), (0xF4, 1), (0xF6, 1), (0xF2, 1), (0xFB, 1), (0xF9, 1), (0xFF, 1), (0xD6, 1),
  (0xDC, 1), (0xF8, 1), (0xA3, 1), (0xD8, 1), (0x20A7, 1), (0x192, 1), (0xE1, 1), (0xED, 1),
  (0xF3, 1), (0xFA, 1), (0xF1, 1), (0xD1, 1), (0xAA, 1), (0xBA, 1), (0xBF, 1), (0x2310, 1),
  (0xAC, 1), (0xBD, 1), (0xBC, 1), (0xA1, 1), (0xAB, 1), (0xA4, 1), (0x2591, 3), (0x2502, 1),
  (0x2524, 1), (0x2561, 2), (0x2556, 1), (0x2555, 1), (0x2563, 1), (0x2551, 1), (0x2557, 1),
  (0x255D, 1), (0x255C, 1), (0x255B, 1), (0x2510, 1), (0x2514, 1), (0x2534, 1), (0x252C, 1),
  (0x251C, 1), (0x2500, 1), (0x253C, 1), (0x255E, 2), (0x255A, 1), (0x2554, 1), (0x2569, 1),
  (0x2566, 1), (0x2560, 1), (0x2550, 1), (0x256C, 1), (0x2567, 2), (0x2564, 2), (0x2559, 1),
  (0x2558, 1), (0x2552, 2), (0x256B, 1), (0x256A, 1), (0x2518, 1), (0x250C, 1), (0x2588, 1),
  (0x2584, 1), (0x258C, 1), (0x2590, 1), (0x2580, 1), (0x3B1, 1), (0xDF, 1), (0x393, 1),
  (0x3C0, 1), (0x3A3, 1), (0x3C3, 1), (0xB5, 1), (0x3C4, 1), (0x3A6, 1), (0x398, 1), (0x3A9, 1),
  (0x3B4, 1), (0x221E, 1), (0x3C6, 1), (0x3B5, 1), (0x2229, 1), (0x2261, 1), (0xB1, 1),
  (0x2265, 1), (0x2264, 1), (0x2320, 2), (0xF7, 1), (0x2248, 1), (0xB0, 1), (0x2219, 1), (0xB7, 1),
  (0x221A, 1), (0x207F, 1), (0xB2, 1), (0x25A0, 1), (0xA0, 1)]

def codePage866 : Table := [
  (0, 128), (0x410, 48), (0x2591, 3), (0x2502, 1), (0x2524, 1), (0x2561, 2), (0x2556, 1),
  (0x2555, 1), (0x2563, 1), (0x2551, 1), (0x2557, 1), (0x255D, 1), (0x255C, 1), (0x255B, 1),
  (0x2510, 1), (0x2514, 1), (0x2534, 1), (0x252C, 1), (0x251C, 1), (0x2500, 1), (0x253C, 1),
  (0x255E, 2), (0x255A, 1), (0x2554, 1), (0x2569, 1), (0x2566, 1), (0x2560, 1), (0x2550, 1),
  (0x256C, 1), (0x2567, 2), (0x2564, 2), (0x2559, 1), (0x2558, 1), (0x2552, 2), (0x256B, 1),
  (0x256A, 1), (0x2518, 1), (0x250C, 1), (0x2588, 1), (0x2584, 1), (0x258C, 1), (0x2590, 1),
  (0x2580, 1), (0x440, 16), (0x401, 1), (0x451, 1), (0x404, 1), (0x454, 1), (0x407, 1), (0x457, 1),
  (0x40E, 1), (0x45E, 1), (0xB0, 1), (0x2219, 1), (0xB7, 1), (0x221A, 1), (0x2116, 1), (0xA4, 1),
  (0x25A0, 1), (0xA0, 1)]

def codePage869 : Table := [
  (0, 128), (0xFFFD, 6), (0x386, 1), (0xFFFD, 1), (0xB7, 1), (0xAC, 1), (0xA6, 1), (0x2018, 2),
  (0x388, 1), (0x2015, 1), (0x389, 2), (0x3AA, 1), (0x38C, 1), (0xFFFD, 2), (0x38E, 1), (0x3AB, 1),
  (0xA9, 1), (0x38F, 1), (0xB2, 2), (0x3AC, 1), (0xA3, 1), (0x3AD, 3), (0x3CA, 1), (0x390, 1),
  (0x3CC, 2), (0x391, 7), (0xBD, 1), (0x398, 2), (0xAB, 1), (0xBB, 1), (0x2591, 3), (0x2502, 1),
  (0x2524, 1), (0x39A, 4), (0x2563, 1), (0x2551, 1), (0x2557, 1), (0x255D, 1), (0x39E, 2),
  (0x2510, 1), (0x2514, 1), (0x2534, 1), (0x252C, 1), (0x251C, 1), (0x2500, 1), (0x253C, 1),
  (0x3A0, 2), (0x255A, 1), (0x2554, 1), (0x2569, 1), (0x2566, 1), (0x2560, 1), (0x2550, 1),
  (0x256C, 1), (0x3A3, 7), (0x3B1, 3), (0x2518, 1), (0x250C, 1), (0x2588, 1), (0x2584, 1),
  (0x3B4, 2), (0x2580, 1), (0x3B6, 12), (0x3C3, 1), (0x3C2, 1), (0x3C4, 1), (0x384, 1), (0xAD, 1),
  (0xB1, 1), (0x3C5, 3), (0xA7, 1), (0x3C8, 1), (0x385, 1), (0xB0, 1), (0xA8, 1), (0x3C9, 1),
  (0x3CB, 1), (0x3B0, 1), (0x3CE, 1), (0x25A0, 1), (0xA0, 1)]

def codePage874 : Table := [
  (0, 128), (0x20AC, 1), (0xFFFD, 4), (0x2026, 1), (0xFFFD, 11), (0x2018, 2), (0x201C, 2),
  (0x2022, 1), (0x2013, 2), (0xFFFD, 8), (0xA0, 1), (0xE01, 58), (0xFFFD, 4), (0xE3F, 29),
  (0xFFFD, 4)]

def codePage1006 : Table := [
  (0, 161), (0x6F0, 10), (0x60C, 1), (0x61B, 1), (0xAD, 1), (0x61F, 1), (0xFE81, 1), (0xFE8D, 2),
  (0xFE8E, 2), (0xFE91, 1), (0xFB56, 1), (0xFB58, 1), (0xFE93, 1), (0xFE95, 1), (0xFE97, 1),
  (0xFB66, 1), (0xFB68, 1), (0xFE99, 1), (0xFE9B, 1), (0xFE9D, 1), (0xFE9F, 1), (0xFB7A, 1),
  (0xFB7C, 1), (0xFEA1, 1), (0xFEA3, 1), (0xFEA5, 1), (0xFEA7, 1), (0xFEA9, 1), (0xFB84, 1),
  (0xFEAB, 1), (0xFEAD, 1), (0xFB8C, 1), (0xFEAF, 1), (0xFB8A, 1), (0xFEB1, 1), (0xFEB3, 1),
  (0xFEB5, 1), (0xFEB7, 1), (0xFEB9, 1), (0xFEBB, 1), (0xFEBD, 1), (0xFEBF, 1), (0xFEC1, 1),
  (0xFEC5, 1), (0xFEC9, 9), (0xFED3, 1), (0xFED5, 1), (0xFED7, 1), (0xFED9, 1), (0xFEDB, 1),
  (0xFB92, 1), (0xFB94, 1), (0xFEDD, 1), (0xFEDF, 3), (0xFEE3, 1), (0xFB9E, 1), (0xFEE5, 1),
  (0xFEE7, 1), (0xFE85, 1), (0xFEED, 1), (0xFBA6, 1), (0xFBA8, 3), (0xFE80, 1), (0xFE89, 3),
  (0xFEF1, 3), (0xFBB0, 1), (0xFBAE, 1), (0xFE7C, 2)]

def codePage1125 : Table := [
  (0, 128), (0x410, 48), (0x2591, 3), (0x2502, 1), (0x2524, 1), (0x2561, 2), (0x2556, 1),
  (0x2555, 1), (0x2563, 1), (0x2551, 1), (0x2557, 1), (0x255D, 1), (0x255C, 1), (0x255B, 1),
  (0x2510, 1), (0x2514, 1), (0x2534, 1), (0x252C, 1), (0x251C, 1), (0x2500, 1), (0x253C, 1),
  (0x255E, 2), (0x255A, 1), (0x2554, 1), (0x2569, 1), (0x2566, 1), (0x2560, 1), (0x2550, 1),
  (0x256C, 1), (0x2567, 2), (0x2564, 2), (0x2559, 1), (0x2558, 1), (0x2552, 2), (0x256B, 1),
  (0x256A, 1), (0x2518, 1), (0x250C, 1), (0x2588, 1), (0x2584, 1), (0x258C, 1), (0x2590, 1),
  (0x2580, 1), (0x440, 16), (0x401, 1), (0x451, 1), (0x490, 2), (0x404, 1), (0x454, 1), (0x406, 1),
  (0x456, 1), (0x407, 1), (0x457, 1), (0xB7, 1), (0x221A, 1), (0x2116, 1), (0xA4, 1), (0x25A0, 1),
  (0xA0, 1)]

def kazakh1048 : Table := [
  (0, 128), (0x402, 2), (0x201A, 1), (0x453, 1), (0x201E, 1), (0x2026, 1), (0x2020, 2),
  (0x20AC, 1), (0x2030, 1), (0x409, 1), (0x2039, 1), (0x40A, 1), (0x49A, 1), (0x4BA, 1),
  (0x40F, 1), (0x452, 1), (0x2018, 2), (0x201C, 2), (0x2022, 1), (0x2013, 2), (0xFFFD, 1),
  (0x2122, 1), (0x459, 1), (0x203A, 1), (0x45A, 1), (0x49B, 1), (0x4BB, 1), (0x45F, 1), (0xA0, 1),
  (0x4B0, 2), (0x4D8, 1), (0xA4, 1), (0x4E8, 1), (0xA6, 2), (0x401, 1), (0xA9, 1), (0x492, 1),
  (0xAB, 4), (0x4AE, 1), (0xB0, 2), (0x406, 1), (0x456, 1), (0x4E9, 1), (0xB5, 3), (0x451, 1),
  (0x2116, 1), (0x493, 1), (0xBB, 1), (0x4D9, 1), (0x4A2, 2), (0x4AF, 1), (0x410, 64)]

def koi8R : Table := [
  (0, 128), (0x2500, 1), (0x2502, 1), (0x250C, 1), (0x2510, 1), (0x2514, 1), (0x2518, 1),
  (0x251C, 1), (0x2524, 1), (0x252C, 1), (0x2534, 1), (0x253C, 1), (0x2580, 1), (0x2584, 1),
  (0x2588, 1), (0x258C, 1), (0x2590, 4), (0x2320, 1), (0x25A0, 1), (0x2219, 2), (0x2248, 1),
  (0x2264, 2), (0xA0, 1), (0x2321, 1), (0xB0, 1), (0xB2, 1), (0xB7, 1), (0xF7, 1), (0x2550, 3),
  (0x451, 1), (0x2553, 15), (0x401, 1), (0x2562, 11), (0xA9, 1), (0x44E, 1), (0x430, 2),
  (0x446, 1), (0x434, 2), (0x444, 1), (0x433, 1), (0x445, 1), (0x438, 8), (0x44F, 1), (0x440, 4),
  (0x436, 1), (0x432, 1), (0x44C, 1), (0x44B, 1), (0x437, 1), (0x448, 1), (0x44D, 1), (0x449, 1),
  (0x447, 1), (0x44A, 1), (0x42E, 1), (0x410, 2), (0x426, 1), (0x414, 2), (0x424, 1), (0x413, 1),
  (0x425, 1), (0x418, 8), (0x42F, 1), (0x420, 4), (0x416, 1), (0x412, 1), (0x42C, 1), (0x42B, 1),
  (0x417, 1), (0x428, 1), (0x42D, 1), (0x429, 1), (0x427, 1), (0x42A, 1)]

def koi8T : Table := [
  (0, 128), (0x49B, 1), (0x493, 1), (0x201A, 1), (0x492, 1), (0x201E, 1), (0x2026, 1), (0x2020, 2),
  (0xFFFD, 1), (0x2030, 1), (0x4B3, 1), (0x2039, 1), (0x4B2, 1), (0x4B7, 1), (0x4B6, 1),
  (0xFFFD, 1), (0x49A, 1), (0x2018, 2), (0x201C, 2), (0x2022, 1), (0x2013, 2), (0xFFFD, 1),
  (0x2122, 1), (0xFFFD, 1), (0x203A, 1), (0xFFFD, 5), (0x4EF, 1), (0x4EE, 1), (0x451, 1),
  (0xA4, 1), (0x4E3, 1), (0xA6, 2), (0xFFFD, 3), (0xAB, 4), (0xFFFD, 1), (0xB0, 3), (0x401, 1),
  (0xFFFD, 1), (0x4E2, 1), (0xB6, 2), (0xFFFD, 1), (0x2116, 1), (0xFFFD, 1), (0xBB, 1),
  (0xFFFD, 3), (0xA9, 1), (0x44E, 1), (0x430, 2), (0x446, 1), (0x434, 2), (0x444, 1), (0x433, 1),
  (0x445, 1), (0x438, 8), (0x44F, 1), (0x440, 4), (0x436, 1), (0x432, 1), (0x44C, 1), (0x44B, 1),
  (0x437, 1), (0x448, 1), (0x44D, 1), (0x449, 1), (0x447, 1), (0x44A, 1), (0x42E, 1), (0x410, 2),
  (0x426, 1), (0x414, 2), (0x424, 1), (0x413, 1), (0x425, 1), (0x418, 8), (0x42F, 1), (0x420, 4),
  (0x416, 1), (0x412, 1), (0x42C, 1), (0x42B, 1), (0x417, 1), (0x428, 1), (0x42D, 1), (0x429, 1),
  (0x427, 1), (0x42A, 1)]

def koi8U : Table := [
  (0, 128), (0x2500, 1), (0x2502, 1), (0x250C, 1), (0x2510, 1), (0x2514, 1), (0x2518, 1),
  (0x251C, 1), (0x2524, 1), (0x252C, 1), (0x2534, 1), (0x253C, 1), (0x2580, 1), (0x2584, 1),
  (0x2588, 1), (0x258C, 1), (0x2590, 4), (0x2320, 1), (0x25A0, 1), (0x2219, 2), (0x2248, 1),
  (0x2264, 2), (0xA0, 1), (0x2321, 1), (0xB0, 1), (0xB2, 1), (0xB7, 1), (0xF7, 1), (0x2550, 3),
  (0x451, 1), (0x454, 1), (0x2554, 1), (0x456, 2), (0x2557, 5), (0x491, 1), (0x255D, 5),
  (0x401, 1), (0x404, 1), (0x2563, 1), (0x406, 2), (0x2566, 5), (0x490, 1), (0x256C, 1), (0xA9, 1),
  (0x44E, 1), (0x430, 2), (0x446, 1), (0x434, 2), (0x444, 1), (0x433, 1), (0x445, 1), (0x438, 8),
  (0x44F, 1), (0x440, 4), (0x436, 1), (0x432, 1), (0x44C, 1), (0x44B, 1), (0x437, 1), (0x448, 1),
  (0x44D, 1), (0x449, 1), (0x447, 1), (0x44A, 1), (0x42E, 1), (0x410, 2), (0x426, 1), (0x414, 2),
  (0x424, 1), (0x413, 1), (0x425, 1), (0x418, 8), (0x42F, 1), (0x420, 4), (0x416, 1), (0x412, 1),
  (0x42C, 1), (0x42B, 1), (0x417, 1), (0x428, 1), (0x42D, 1), (0x429, 1), (0x427, 1), (0x42A, 1)]

def latin1 : Table := [(0, 256)]

def latinPart2 : Table := [
  (0, 161), (0x104, 1), (0x2D8, 1), (0x141, 1), (0xA4, 1), (0x13D, 1), (0x15A, 1), (0xA7, 2),
  (0x160, 1), (0x15E, 1), (0x164, 1), (0x179, 1), (0xAD, 1), (0x17D, 1), (0x17B, 1), (0xB0, 1),
  (0x105, 1), (0x2DB, 1), (0x142, 1), (0xB4, 1), (0x13E, 1), (0x15B, 1), (0x2C7, 1), (0xB8, 1),
  (0x161, 1), (0x15F, 1), (0x165, 1), (0x17A, 1), (0x2DD, 1), (0x17E, 1), (0x17C, 1), (0x154, 1),
  (0xC1, 2), (0x102, 1), (0xC4, 1), (0x139, 1), (0x106, 1), (0xC7, 1), (0x10C, 1), (0xC9, 1),
  (0x118, 1), (0xCB, 1), (0x11A, 1), (0xCD, 2), (0x10E, 1), (0x110, 1), (0x143, 1), (0x147, 1),
  (0xD3, 2), (0x150, 1), (0xD6, 2), (0x158, 1), (0x16E, 1), (0xDA, 1), (0x170, 1), (0xDC, 2),
  (0x162, 1), (0xDF, 1), (0x155, 1), (0xE1, 2), (0x103, 1), (0xE4, 1), (0x13A, 1), (0x107, 1),
  (0xE7, 1), (0x10D, 1), (0xE9, 1), (0x119, 1), (0xEB, 1), (0x11B, 1), (0xED, 2), (0x10F, 1),
  (0x111, 1), (0x144, 1), (0x148, 1), (0xF3, 2), (0x151, 1), (0xF6, 2), (0x159, 1), (0x16F, 1),
  (0xFA, 1), (0x171, 1), (0xFC, 2), (0x163, 1), (0x2D9, 1)]

def latinPart3 : Table := [
  (0, 161), (0x126, 1), (0x2D8, 1), (0xA3, 2), (0xFFFD, 1), (0x124, 1), (0xA7, 2), (0x130, 1),
  (0x15E, 1), (0x11E, 1), (0x134, 1), (0xAD, 1), (0xFFFD, 1), (0x17B, 1), (0xB0, 1), (0x127, 1),
  (0xB2, 4), (0x125, 1), (0xB7, 2), (0x131, 1), (0x15F, 1), (0x11F, 1), (0x135, 1), (0xBD, 1),
  (0xFFFD, 1), (0x17C, 1), (0xC0, 3), (0xFFFD, 1), (0xC4, 1), (0x10A, 1), (0x108, 1), (0xC7, 9),
  (0xFFFD, 1), (0xD1, 4), (0x120, 1), (0xD6, 2), (0x11C, 1), (0xD9, 4), (0x16C, 1), (0x15C, 1),
  (0xDF, 4), (0xFFFD, 1), (0xE4, 1), (0x10B, 1), (0x109, 1), (0xE7, 9), (0xFFFD, 1), (0xF1, 4),
  (0x121, 1), (0xF6, 2), (0x11D, 1), (0xF9, 4), (0x16D, 1), (0x15D, 1), (0x2D9, 1)]

def latinPart4 : Table := [
  (0, 161), (0x104, 1), (0x138, 1), (0x156, 1), (0xA4, 1), (0x128, 1), (0x13B, 1), (0xA7, 2),
  (0x160, 1), (0x112, 1), (0x122, 1), (0x166, 1), (0xAD, 1), (0x17D, 1), (0xAF, 2), (0x105, 1),
  (0x2DB, 1), (0x157, 1), (0xB4, 1), (0x129, 1), (0x13C, 1), (0x2C7, 1), (0xB8, 1), (0x161, 1),
  (0x113, 1), (0x123, 1), (0x167, 1), (0x14A, 1), (0x17E, 1), (0x14B, 1), (0x100, 1), (0xC1, 6),
  (0x12E, 1), (0x10C, 1), (0xC9, 1), (0x118, 1), (0xCB, 1), (0x116, 1), (0xCD, 2), (0x12A, 1),
  (0x110, 1), (0x145, 1), (0x14C, 1), (0x136, 1), (0xD4, 5), (0x172, 1), (0xDA, 3), (0x168, 1),
  (0x16A, 1), (0xDF, 1), (0x101, 1), (0xE1, 6), (0x12F, 1), (0x10D, 1), (0xE9, 1), (0x119, 1),
  (0xEB, 1), (0x117, 1), (0xED, 2), (0x12B, 1), (0x111, 1), (0x146, 1), (0x14D, 1), (0x137, 1),
  (0xF4, 5), (0x173, 1), (0xFA, 3), (0x169, 1), (0x16B, 1), (0x2D9, 1)]

def latinPart5 : Table := [
  (0, 161), (0x401, 12), (0xAD, 1), (0x40E, 66), (0x2116, 1), (0x451, 12), (0xA7, 1), (0x45E, 2)]

def latinPart6 : Table := [
  (0, 161), (0xFFFD, 3), (0xA4, 1), (0xFFFD, 7), (0x60C, 1), (0xAD, 1), (0xFFFD, 13), (0x61B, 1),
  (0xFFFD, 3), (0x61F, 1), (0xFFFD, 1), (0x621, 26), (0xFFFD, 5), (0x640, 19), (0xFFFD, 13)]

def latinPart7 : Table := [
  (0, 161), (0x2018, 2), (0xA3, 1), (0x20AC, 1), (0x20AF, 1), (0xA6, 4), (0x37A, 1), (0xAB, 3),
  (0xFFFD, 1), (0x2015, 1), (0xB0, 4), (0x384, 3), (0xB7, 1), (0x388, 3), (0xBB, 1), (0x38C, 1),
  (0xBD, 1), (0x38E, 20), (0xFFFD, 1), (0x3A3, 44), (0xFFFD, 1)]

def latinPart8 : Table := [
  (0, 161), (0xFFFD, 1), (0xA2, 8), (0xD7, 1), (0xAB, 15), (0xF7, 1), (0xBB, 4), (0xFFFD, 32),
  (0x2017, 1), (0x5D0, 27), (0xFFFD, 2), (0x200E, 2), (0xFFFD, 1)]

def latinPart9 : Table := [
  (0, 208), (0x11E, 1), (0xD1, 12), (0x130, 1), (0x15E, 1), (0xDF, 17), (0x11F, 1), (0xF1, 12),
  (0x131, 1), (0x15F, 1), (0xFF, 1)]

def latinPart10 : Table := [
  (0, 161), (0x104, 1), (0x112, 1), (0x122, 1), (0x12A, 1), (0x128, 1), (0x136, 1), (0xA7, 1),
  (0x13B, 1), (0x110, 1), (0x160, 1), (0x166, 1), (0x17D, 1), (0xAD, 1), (0x16A, 1), (0x14A, 1),
  (0xB0, 1), (0x105, 1), (0x113, 1), (0x123, 1), (0x12B, 1), (0x129, 1), (0x137, 1), (0xB7, 1),
  (0x13C, 1), (0x111, 1), (0x161, 1), (0x167, 1), (0x17E, 1), (0x2015, 1), (0x16B, 1), (0x14B, 1),
  (0x100, 1), (0xC1, 6), (0x12E, 1), (0x10C, 1), (0xC9, 1), (0x118, 1), (0xCB, 1), (0x116, 1),
  (0xCD, 4), (0x145, 1), (0x14C, 1), (0xD3, 4), (0x168, 1), (0xD8, 1), (0x172, 1), (0xDA, 6),
  (0x101, 1), (0xE1, 6), (0x12F, 1), (0x10D, 1), (0xE9, 1), (0x119, 1), (0xEB, 1), (0x117, 1),
  (0xED, 4), (0x146, 1), (0x14D, 1), (0xF3, 4), (0x169, 1), (0xF8, 1), (0x173, 1), (0xFA, 5),
  (0x138, 1)]

def latinPart11 : Table := [(0, 161), (0xE01, 58), (0xFFFD, 4), (0xE3F, 29), (0xFFFD, 4)]

def latinPart13 : Table := [
  (0, 161), (0x201D, 1), (0xA2, 3), (0x201E, 1), (0xA6, 2), (0xD8, 1), (0xA9, 1), (0x156, 1),
  (0xAB, 4), (0xC6, 1), (0xB0, 4), (0x201C, 1), (0xB5, 3), (0xF8, 1), (0xB9, 1), (0x157, 1),
  (0xBB, 4), (0xE6, 1), (0x104, 1), (0x12E, 1), (0x100, 1), (0x106, 1), (0xC4, 2), (0x118, 1),
  (0x112, 1), (0x10C, 1), (0xC9, 1), (0x179, 1), (0x116, 1), (0x122, 1), (0x136, 1), (0x12A, 1),
  (0x13B, 1), (0x160, 1), (0x143, 1), (0x145, 1), (0xD3, 1), (0x14C, 1), (0xD5, 3), (0x172, 1),
  (0x141, 1), (0x15A, 1), (0x16A, 1), (0xDC, 1), (0x17B, 1), (0x17D, 1), (0xDF, 1), (0x105, 1),
  (0x12F, 1), (0x101, 1), (0x107, 1), (0xE4, 2), (0x119, 1), (0x113, 1), (0x10D, 1), (0xE9, 1),
  (0x17A, 1), (0x117, 1), (0x123, 1), (0x137, 1), (0x12B, 1), (0x13C, 1), (0x161, 1), (0x144, 1),
  (0x146, 1), (0xF3, 1), (0x14D, 1), (0xF5, 3), (0x173, 1), (0x142, 1), (0x15B, 1), (0x16B, 1),
  (0xFC, 1), (0x17C, 1), (0x17E, 1), (0x2019, 1)]

def latinPart14 : Table := [
  (0, 161), (0x1E02, 2), (0xA3, 1), (0x10A, 2), (0x1E0A, 1), (0xA7, 1), (0x1E80, 1), (0xA9, 1),
  (0x1E82, 1), (0x1E0B, 1), (0x1EF2, 1), (0xAD, 2), (0x178, 1), (0x1E1E, 2), (0x120, 2),
  (0x1E40, 2), (0xB6, 1), (0x1E56, 1), (0x1E81, 1), (0x1E57, 1), (0x1E83, 1), (0x1E60, 1),
  (0x1EF3, 1), (0x1E84, 2), (0x1E61, 1), (0xC0, 16), (0x174, 1), (0xD1, 6), (0x1E6A, 1), (0xD8, 6),
  (0x176, 1), (0xDF, 17), (0x175, 1), (0xF1, 6), (0x1E6B, 1), (0xF8, 6), (0x177, 1), (0xFF, 1)]

def latinPart15 : Table := [
  (0, 164), (0x20AC, 1), (0xA5, 1), (0x160, 1), (0xA7, 1), (0x161, 1), (0xA9, 11), (0x17D, 1),
  (0xB5, 3), (0x17E, 1), (0xB9, 3), (0x152, 2), (0x178, 1), (0xBF, 65)]

def latinPart16 : Table := [
  (0, 161), (0x104, 2), (0x141, 1), (0x20AC, 1), (0x201E, 1), (0x160, 1), (0xA7, 1), (0x161, 1),
  (0xA9, 1), (0x218, 1), (0xAB, 1), (0x179, 1), (0xAD, 1), (0x17A, 2), (0xB0, 2), (0x10C, 1),
  (0x142, 1), (0x17D, 1), (0x201D, 1), (0xB6, 2), (0x17E, 1), (0x10D, 1), (0x219, 1), (0xBB, 1),
  (0x152, 2), (0x178, 1), (0x17C, 1), (0xC0, 3), (0x102, 1), (0xC4, 1), (0x106, 1), (0xC6, 10),
  (0x110, 1), (0x143, 1), (0xD2, 3), (0x150, 1), (0xD6, 1), (0x15A, 1), (0x170, 1), (0xD9, 4),
  (0x118, 1), (0x21A, 1), (0xDF, 4), (0x103, 1), (0xE4, 1), (0x107, 1), (0xE6, 10), (0x111, 1),
  (0x144, 1), (0xF2, 3), (0x151, 1), (0xF6, 1), (0x15B, 1), (0x171, 1), (0xF9, 4), (0x119, 1),
  (0x21B, 1), (0xFF, 1)]

def macCroatian : Table := [
  (0, 128), (0xC4, 2), (0xC7, 1), (0xC9, 1), (0xD1, 1), (0xD6, 1), (0xDC, 1), (0xE1, 1), (0xE0, 1),
  (0xE2, 1), (0xE4, 1), (0xE3, 1), (0xE5, 1), (0xE7, 1), (0xE9, 1), (0xE8, 1), (0xEA, 2),
  (0xED, 1), (0xEC, 1), (0xEE, 2), (0xF1, 1), (0xF3, 1), (0xF2, 1), (0xF4, 1), (0xF6, 1),
  (0xF5, 1), (0xFA, 1), (0xF9, 1), (0xFB, 2), (0x2020, 1), (0xB0, 1), (0xA2, 2), (0xA7, 1),
  (0x2022, 1), (0xB6, 1), (0xDF, 1), (0xAE, 1), (0x160, 1), (0x2122, 1), (0xB4, 1), (0xA8, 1),
  (0x2260, 1), (0x17D, 1), (0xD8, 1), (0x221E, 1), (0xB1, 1), (0x2264, 2), (0x2206, 1), (0xB5, 1),
  (0x2202, 1), (0x2211, 1), (0x220F, 1), (0x161, 1), (0x222B, 1), (0xAA, 1), (0xBA, 1), (0x3A9, 1),
  (0x17E, 1), (0xF8, 1), (0xBF, 1), (0xA1, 1), (0xAC, 1), (0x221A, 1), (0x192, 1), (0x2248, 1),
  (0x106, 1), (0xAB, 1), (0x10C, 1), (0x2026, 1), (0xA0, 1), (0xC0, 1), (0xC3, 1), (0xD5, 1),
  (0x152, 2), (0x110, 1), (0x2014, 1), (0x201C, 2), (0x2018, 2), (0xF7, 1), (0x25CA, 1),
  (0xF8FF, 1), (0xA9, 1), (0x2044, 1), (0x20AC, 1), (0x2039, 2), (0xC6, 1), (0xBB, 1), (0x2013, 1),
  (0xB7, 1), (0x201A, 1), (0x201E, 1), (0x2030, 1), (0xC2, 1), (0x107, 1), (0xC1, 1), (0x10D, 1),
  (0xC8, 1), (0xCD, 3), (0xCC, 1), (0xD3, 2), (0x111, 1), (0xD2, 1), (0xDA, 2), (0xD9, 1),
  (0x131, 1), (0x2C6, 1), (0x2DC, 1), (0xAF, 1), (0x3C0, 1), (0xCB, 1), (0x2DA, 1), (0xB8, 1),
  (0xCA, 1), (0xE6, 1), (0x2C7, 1)]

def macCyrillic : Table := [
  (0, 128), (0x410, 32), (0x2020, 1), (0xB0, 1), (0x490, 1), (0xA3, 1), (0xA7, 1), (0x2022, 1),
  (0xB6, 1), (0x406, 1), (0xAE, 1), (0xA9, 1), (0x2122, 1), (0x402, 1), (0x452, 1), (0x2260, 1),
  (0x403, 1), (0x453, 1), (0x221E, 1), (0xB1, 1), (0x2264, 2), (0x456, 1), (0xB5, 1), (0x491, 1),
  (0x408, 1), (0x404, 1), (0x454, 1), (0x407, 1), (0x457, 1), (0x409, 1), (0x459, 1), (0x40A, 1),
  (0x45A, 1), (0x458, 1), (0x405, 1), (0xAC, 1), (0x221A, 1), (0x192, 1), (0x2248, 1), (0x2206, 1),
  (0xAB, 1), (0xBB, 1), (0x2026, 1), (0xA0, 1), (0x40B, 1), (0x45B, 1), (0x40C, 1), (0x45C, 1),
  (0x455, 1), (0x2013, 2), (0x201C, 2), (0x2018, 2), (0xF7, 1), (0x201E, 1), (0x40E, 1),
  (0x45E, 1), (0x40F, 1), (0x45F, 1), (0x2116, 1), (0x401, 1), (0x451, 1), (0x44F, 1), (0x430, 31),
  (0x20AC, 1)]

def macGreek : Table := [
  (0, 128), (0xC4, 1), (0xB9, 1), (0xB2, 1), (0xC9, 1), (0xB3, 1), (0xD6, 1), (0xDC, 1),
  (0x385, 1), (0xE0, 1), (0xE2, 1), (0xE4, 1), (0x384, 1), (0xA8, 1), (0xE7, 1), (0xE9, 1),
  (0xE8, 1), (0xEA, 2), (0xA3, 1), (0x2122, 1), (0xEE, 2), (0x2022, 1), (0xBD, 1), (0x2030, 1),
  (0xF4, 1), (0xF6, 1), (0xA6, 1), (0x20AC, 1), (0xF9, 1), (0xFB, 2), (0x2020, 1), (0x393, 2),
  (0x398, 1), (0x39B, 1), (0x39E, 1), (0x3A0, 1), (0xDF, 1), (0xAE, 1), (0xA9, 1), (0x3A3, 1),
  (0x3AA, 1), (0xA7, 1), (0x2260, 1), (0xB0, 1), (0xB7, 1), (0x391, 1), (0xB1, 1), (0x2264, 2),
  (0xA5, 1), (0x392, 1), (0x395, 3), (0x399, 2), (0x39C, 1), (0x3A6, 1), (0x3AB, 1), (0x3A8, 2),
  (0x3AC, 1), (0x39D, 1), (0xAC, 1), (0x39F, 1), (0x3A1, 1), (0x2248, 1), (0x3A4, 1), (0xAB, 1),
  (0xBB, 1), (0x2026, 1), (0xA0, 1), (0x3A5, 1), (0x3A7, 1), (0x386, 1), (0x388, 1), (0x153, 1),
  (0x2013, 1), (0x2015, 1), (0x201C, 2), (0x2018, 2), (0xF7, 1), (0x389, 2), (0x38C, 1),
  (0x38E, 1), (0x3AD, 3), (0x3CC, 1), (0x38F, 1), (0x3CD, 1), (0x3B1, 2), (0x3C8, 1), (0x3B4, 2),
  (0x3C6, 1), (0x3B3, 1), (0x3B7, 1), (0x3B9, 1), (0x3BE, 1), (0x3BA, 4), (0x3BF, 2), (0x3CE, 1),
  (0x3C1, 1), (0x3C3, 2), (0x3B8, 1), (0x3C9, 1), (0x3C2, 1), (0x3C7, 1), (0x3C5, 1), (0x3B6, 1),
  (0x3CA, 2), (0x390, 1), (0x3B0, 1), (0xAD, 1)]

def macIceland : Table := [
  (0, 128), (0xC4, 2), (0xC7, 1), (0xC9, 1), (0xD1, 1), (0xD6, 1), (0xDC, 1), (0xE1, 1), (0xE0, 1),
  (0xE2, 1), (0xE4, 1), (0xE3, 1), (0xE5, 1), (0xE7, 1), (0xE9, 1), (0xE8, 1), (0xEA, 2),
  (0xED, 1), (0xEC, 1), (0xEE, 2), (0xF1, 1), (0xF3, 1), (0xF2, 1), (0xF4, 1), (0xF6, 1),
  (0xF5, 1), (0xFA, 1), (0xF9, 1), (0xFB, 2), (0xDD, 1), (0xB0, 1), (0xA2, 2), (0xA7, 1),
  (0x2022, 1), (0xB6, 1), (0xDF, 1), (0xAE, 1), (0xA9, 1), (0x2122, 1), (0xB4, 1), (0xA8, 1),
  (0x2260, 1), (0xC6, 1), (0xD8, 1), (0x221E, 1), (0xB1, 1), (0x2264, 2), (0xA5, 1), (0xB5, 1),
  (0x2202, 1), (0x2211, 1), (0x220F, 1), (0x3C0, 1), (0x222B, 1), (0xAA, 1), (0xBA, 1), (0x3A9, 1),
  (0xE6, 1), (0xF8, 1), (0xBF, 1), (0xA1, 1), (0xAC, 1), (0x221A, 1), (0x192, 1), (0x2248, 1),
  (0x2206, 1), (0xAB, 1), (0xBB, 1), (0x2026, 1), (0xA0, 1), (0xC0, 1), (0xC3, 1), (0xD5, 1),
  (0x152, 2), (0x2013, 2), (0x201C, 2), (0x2018, 2), (0xF7, 1), (0x25CA, 1), (0xFF, 1), (0x178, 1),
  (0x2044, 1), (0x20AC, 1), (0xD0, 1), (0xF0, 1), (0xDE, 1), (0xFE, 1), (0xFD, 1), (0xB7, 1),
  (0x201A, 1), (0x201E, 1), (0x2030, 1), (0xC2, 1), (0xCA, 1), (0xC1, 1), (0xCB, 1), (0xC8, 1),
  (0xCD, 3), (0xCC, 1), (0xD3, 2), (0xF8FF, 1), (0xD2, 1), (0xDA, 2), (0xD9, 1), (0x131, 1),
  (0x2C6, 1), (0x2DC, 1), (0xAF, 1), (0x2D8, 3), (0xB8, 1), (0x2DD, 1), (0x2DB, 1), (0x2C7, 1)]

def macLatin2 : Table := [
  (0, 128), (0xC4, 1), (0x100, 2), (0xC9, 1), (0x104, 1), (0xD6, 1), (0xDC, 1), (0xE1, 1),
  (0x105, 1), (0x10C, 1), (0xE4, 1), (0x10D, 1), (0x106, 2), (0xE9, 1), (0x179, 2), (0x10E, 1),
  (0xED, 1), (0x10F, 1), (0x112, 2), (0x116, 1), (0xF3, 1), (0x117, 1), (0xF4, 1), (0xF6, 1),
  (0xF5, 1), (0xFA, 1), (0x11A, 2), (0xFC, 1), (0x2020, 1), (0xB0, 1), (0x118, 1), (0xA3, 1),
  (0xA7, 1), (0x2022, 1), (0xB6, 1), (0xDF, 1), (0xAE, 1), (0xA9, 1), (0x2122, 1), (0x119, 1),
  (0xA8, 1), (0x2260, 1), (0x123, 1), (0x12E, 2), (0x12A, 1), (0x2264, 2), (0x12B, 1), (0x136, 1),
  (0x2202, 1), (0x2211, 1), (0x142, 1), (0x13B, 4), (0x139, 2), (0x145, 2), (0x143, 1), (0xAC, 1),
  (0x221A, 1), (0x144, 1), (0x147, 1), (0x2206, 1), (0xAB, 1), (0xBB, 1), (0x2026, 1), (0xA0, 1),
  (0x148, 1), (0x150, 1), (0xD5, 1), (0x151, 1), (0x14C, 1), (0x2013, 2), (0x201C, 2), (0x2018, 2),
  (0xF7, 1), (0x25CA, 1), (0x14D, 1), (0x154, 2), (0x158, 1), (0x2039, 2), (0x159, 1), (0x156, 2),
  (0x160, 1), (0x201A, 1), (0x201E, 1), (0x161, 1), (0x15A, 2), (0xC1, 1), (0x164, 2), (0xCD, 1),
  (0x17D, 2), (0x16A, 1), (0xD3, 2), (0x16B, 1), (0x16E, 1), (0xDA, 1), (0x16F, 5), (0xDD, 1),
  (0xFD, 1), (0x137, 1), (0x17B, 1), (0x141, 1), (0x17C, 1), (0x122, 1), (0x2C7, 1)]

def macRoman : Table := [
  (0, 128), (0xC4, 2), (0xC7, 1), (0xC9, 1), (0xD1, 1), (0xD6, 1), (0xDC, 1), (0xE1, 1), (0xE0, 1),
  (0xE2, 1), (0xE4, 1), (0xE3, 1), (0xE5, 1), (0xE7, 1), (0xE9, 1), (0xE8, 1), (0xEA, 2),
  (0xED, 1), (0xEC, 1), (0xEE, 2), (0xF1, 1), (0xF3, 1), (0xF2, 1), (0xF4, 1), (0xF6, 1),
  (0xF5, 1), (0xFA, 1), (0xF9, 1), (0xFB, 2), (0x2020, 1), (0xB0, 1), (0xA2, 2), (0xA7, 1),
  (0x2022, 1), (0xB6, 1), (0xDF, 1), (0xAE, 1), (0xA9, 1), (0x2122, 1), (0xB4, 1), (0xA8, 1),
  (0x2260, 1), (0xC6, 1), (0xD8, 1), (0x221E, 1), (0xB1, 1), (0x2264, 2), (0xA5, 1), (0xB5, 1),
  (0x2202, 1), (0x2211, 1), (0x220F, 1), (0x3C0, 1), (0x222B, 1), (0xAA, 1), (0xBA, 1), (0x3A9, 1),
  (0xE6, 1), (0xF8, 1), (0xBF, 1), (0xA1, 1), (0xAC, 1), (0x221A, 1), (0x192, 1), (0x2248, 1),
  (0x2206, 1), (0xAB, 1), (0xBB, 1), (0x2026, 1), (0xA0, 1), (0xC0, 1), (0xC3, 1), (0xD5, 1),
  (0x152, 2), (0x2013, 2), (0x201C, 2), (0x2018, 2), (0xF7, 1), (0x25CA, 1), (0xFF, 1), (0x178, 1),
  (0x2044, 1), (0x20AC, 1), (0x2039, 2), (0xFB01, 2), (0x2021, 1), (0xB7, 1), (0x201A, 1),
  (0x201E, 1), (0x2030, 1), (0xC2, 1), (0xCA, 1), (0xC1, 1), (0xCB, 1), (0xC8, 1), (0xCD, 3),
  (0xCC, 1), (0xD3, 2), (0xF8FF, 1), (0xD2, 1), (0xDA, 2), (0xD9, 1), (0x131, 1), (0x2C6, 1),
  (0x2DC, 1), (0xAF, 1), (0x2D8, 3), (0xB8, 1), (0x2DD, 1), (0x2DB, 1), (0x2C7, 1)]

def macRomanian : Table := [
  (0, 128), (0xC4, 2), (0xC7, 1), (0xC9, 1), (0xD1, 1), (0xD6, 1), (0xDC, 1), (0xE1, 1), (0xE0, 1),
  (0xE2, 1), (0xE4, 1), (0xE3, 1), (0xE5, 1), (0xE7, 1), (0xE9, 1), (0xE8, 1), (0xEA, 2),
  (0xED, 1), (0xEC, 1), (0xEE, 2), (0xF1, 1), (0xF3, 1), (0xF2, 1), (0xF4, 1), (0xF6, 1),
  (0xF5, 1), (0xFA, 1), (0xF9, 1), (0xFB, 2), (0x2020, 1), (0xB0, 1), (0xA2, 2), (0xA7, 1),
  (0x2022, 1), (0xB6, 1), (0xDF, 1), (0xAE, 1), (0xA9, 1), (0x2122, 1), (0xB4, 1), (0xA8, 1),
  (0x2260, 1), (0x102, 1), (0x218, 1), (0x221E, 1), (0xB1, 1), (0x2264, 2), (0xA5, 1), (0xB5, 1),
  (0x2202, 1), (0x2211, 1), (0x220F, 1), (0x3C0, 1), (0x222B, 1), (0xAA, 1), (0xBA, 1), (0x3A9, 1),
  (0x103, 1), (0x219, 1), (0xBF, 1), (0xA1, 1), (0xAC, 1), (0x221A, 1), (0x192, 1), (0x2248, 1),
  (0x2206, 1), (0xAB, 1), (0xBB, 1), (0x2026, 1), (0xA0, 1), (0xC0, 1), (0xC3, 1), (0xD5, 1),
  (0x152, 2), (0x2013, 2), (0x201C, 2), (0x2018, 2), (0xF7, 1), (0x25CA, 1), (0xFF, 1), (0x178, 1),
  (0x2044, 1), (0x20AC, 1), (0x2039, 2), (0x21A, 2), (0x2021, 1), (0xB7, 1), (0x201A, 1),
  (0x201E, 1), (0x2030, 1), (0xC2, 1), (0xCA, 1), (0xC1, 1), (0xCB, 1), (0xC8, 1), (0xCD, 3),
  (0xCC, 1), (0xD3, 2), (0xF8FF, 1), (0xD2, 1), (0xDA, 2), (0xD9, 1), (0x131, 1), (0x2C6, 1),
  (0x2DC, 1), (0xAF, 1), (0x2D8, 3), (0xB8, 1), (0x2DD, 1), (0x2DB, 1), (0x2C7, 1)]

def macTurkish : Table := [
  (0, 128), (0xC4, 2), (0xC7, 1), (0xC9, 1), (0xD1, 1), (0xD6, 1), (0xDC, 1), (0xE1, 1), (0xE0, 1),
  (0xE2, 1), (0xE4, 1), (0xE3, 1), (0xE5, 1), (0xE7, 1), (0xE9, 1), (0xE8, 1), (0xEA, 2),
  (0xED, 1), (0xEC, 1), (0xEE, 2), (0xF1, 1), (0xF3, 1), (0xF2, 1), (0xF4, 1), (0xF6, 1),
  (0xF5, 1), (0xFA, 1), (0xF9, 1), (0xFB, 2), (0x2020, 1), (0xB0, 1), (0xA2, 2), (0xA7, 1),
  (0x2022, 1), (0xB6, 1), (0xDF, 1), (0xAE, 1), (0xA9, 1), (0x2122, 1), (0xB4, 1), (0xA8, 1),
  (0x2260, 1), (0xC6, 1), (0xD8, 1), (0x221E, 1), (0xB1, 1), (0x2264, 2), (0xA5, 1), (0xB5, 1),
  (0x2202, 1), (0x2211, 1), (0x220F, 1), (0x3C0, 1), (0x222B, 1), (0xAA, 1), (0xBA, 1), (0x3A9, 1),
  (0xE6, 1), (0xF8, 1), (0xBF, 1), (0xA1, 1), (0xAC, 1), (0x221A, 1), (0x192, 1), (0x2248, 1),
  (0x2206, 1), (0xAB, 1), (0xBB, 1), (0x2026, 1), (0xA0, 1), (0xC0, 1), (0xC3, 1), (0xD5, 1),
  (0x152, 2), (0x2013, 2), (0x201C, 2), (0x2018, 2), (0xF7, 1), (0x25CA, 1), (0xFF, 1), (0x178, 1),
  (0x11E, 2), (0x130, 2), (0x15E, 2), (0x2021, 1), (0xB7, 1), (0x201A, 1), (0x201E, 1),
  (0x2030, 1), (0xC2, 1), (0xCA, 1), (0xC1, 1), (0xCB, 1), (0xC8, 1), (0xCD, 3), (0xCC, 1),
  (0xD3, 2), (0xF8FF, 1), (0xD2, 1), (0xDA, 2), (0xD9, 1), (0xF8A0, 1), (0x2C6, 1), (0x2DC, 1),
  (0xAF, 1), (0x2D8, 3), (0xB8, 1), (0x2DD, 1), (0x2DB, 1), (0x2C7, 1)]

def palmOs : Table := [
  (0, 128), (0x20AC, 1), (0x81, 1), (0x201A, 1), (0x192, 1), (0x201E, 1), (0x2026, 1), (0x2020, 2),
  (0x2C6, 1), (0x2030, 1), (0x160, 1), (0x2039, 1), (0x152, 1), (0x2666, 1), (0x2663, 1),
  (0x2665, 1), (0x2660, 1), (0x2018, 2), (0x201C, 2), (0x2022, 1), (0x2013, 2), (0x2DC, 1),
  (0x2122, 1), (0x161, 1), (0x9B, 1), (0x153, 1), (0x9D, 2), (0x178, 1), (0xA0, 96)]

def roman8 : Table := [
  (0, 161), (0xC0, 1), (0xC2, 1), (0xC8, 1), (0xCA, 2), (0xCE, 2), (0xB4, 1), (0x2CB, 1),
  (0x2C6, 1), (0xA8, 1), (0x2DC, 1), (0xD9, 1), (0xDB, 1), (0x20A4, 1), (0xAF, 1), (0xDD, 1),
  (0xFD, 1), (0xB0, 1), (0xC7, 1), (0xE7, 1), (0xD1, 1), (0xF1, 1), (0xA1, 1), (0xBF, 1),
  (0xA4, 1), (0xA3, 1), (0xA5, 1), (0xA7, 1), (0x192, 1), (0xA2, 1), (0xE2, 1), (0xEA, 1),
  (0xF4, 1), (0xFB, 1), (0xE1, 1), (0xE9, 1), (0xF3, 1), (0xFA, 1), (0xE0, 1), (0xE8, 1),
  (0xF2, 1), (0xF9, 1), (0xE4, 1), (0xEB, 1), (0xF6, 1), (0xFC, 1), (0xC5, 1), (0xEE, 1),
  (0xD8, 1), (0xC6, 1), (0xE5, 1), (0xED, 1), (0xF8, 1), (0xE6, 1), (0xC4, 1), (0xEC, 1),
  (0xD6, 1), (0xDC, 1), (0xC9, 1), (0xEF, 1), (0xDF, 1), (0xD4, 1), (0xC1, 1), (0xC3, 1),
  (0xE3, 1), (0xD0, 1), (0xF0, 1), (0xCD, 1), (0xCC, 1), (0xD3, 1), (0xD2, 1), (0xD5, 1),
  (0xF5, 1), (0x160, 2), (0xDA, 1), (0x178, 1), (0xFF, 1), (0xDE, 1), (0xFE, 1), (0xB7, 1),
  (0xB5, 2), (0xBE, 1), (0x2014, 1), (0xBC, 2), (0xAA, 1), (0xBA, 1), (0xAB, 1), (0x25A0, 1),
  (0xBB, 1), (0xB1, 1), (0xFFFD, 1)]

def shifted : Table := [(0, 126), (0xFFFD, 1), (0x7F, 1), (0xFFFD, 128)]

def thai620 : Table := [(0, 160), (0xFFFD, 1), (0xE01, 58), (0xFFFD, 4), (0xE3F, 29), (0xFFFD, 4)]

def windows1250 : Table := [
  (0, 128), (0x20AC, 1), (0xFFFD, 1), (0x201A, 1), (0xFFFD, 1), (0x201E, 1), (0x2026, 1),
  (0x2020, 2), (0xFFFD, 1), (0x2030, 1), (0x160, 1), (0x2039, 1), (0x15A, 1), (0x164, 1),
  (0x17D, 1), (0x179, 1), (0xFFFD, 1), (0x2018, 2), (0x201C, 2), (0x2022, 1), (0x2013, 2),
  (0xFFFD, 1), (0x2122, 1), (0x161, 1), (0x203A, 1), (0x15B, 1), (0x165, 1), (0x17E, 1),
  (0x17A, 1), (0xA0, 1), (0x2C7, 1), (0x2D8, 1), (0x141, 1), (0xA4, 1), (0x104, 1), (0xA6, 4),
  (0x15E, 1), (0xAB, 4), (0x17B, 1), (0xB0, 2), (0x2DB, 1), (0x142, 1), (0xB4, 5), (0x105, 1),
  (0x15F, 1), (0xBB, 1), (0x13D, 1), (0x2DD, 1), (0x13E, 1), (0x17C, 1), (0x154, 1), (0xC1, 2),
  (0x102, 1), (0xC4, 1), (0x139, 1), (0x106, 1), (0xC7, 1), (0x10C, 1), (0xC9, 1), (0x118, 1),
  (0xCB, 1), (0x11A, 1), (0xCD, 2), (0x10E, 1), (0x110, 1), (0x143, 1), (0x147, 1), (0xD3, 2),
  (0x150, 1), (0xD6, 2), (0x158, 1), (0x16E, 1), (0xDA, 1), (0x170, 1), (0xDC, 2), (0x162, 1),
  (0xDF, 1), (0x155, 1), (0xE1, 2), (0x103, 1), (0xE4, 1), (0x13A, 1), (0x107, 1), (0xE7, 1),
  (0x10D, 1), (0xE9, 1), (0x119, 1), (0xEB, 1), (0x11B, 1), (0xED, 2), (0x10F, 1), (0x111, 1),
  (0x144, 1), (0x148, 1), (0xF3, 2), (0x151, 1), (0xF6, 2), (0x159, 1), (0x16F, 1), (0xFA, 1),
  (0x171, 1), (0xFC, 2), (0x163, 1), (0x2D9, 1)]

def windows1251 : Table := [
  (0, 128), (0x402, 2), (0x201A, 1), (0x453, 1), (0x201E, 1), (0x2026, 1), (0x2020, 2),
  (0x20AC, 1), (0x2030, 1), (0x409, 1), (0x2039, 1), (0x40A, 1), (0x40C, 1), (0x40B, 1),
  (0x40F, 1), (0x452, 1), (0x2018, 2), (0x201C, 2), (0x2022, 1), (0x2013, 2), (0xFFFD, 1),
  (0x2122, 1), (0x459, 1), (0x203A, 1), (0x45A, 1), (0x45C, 1), (0x45B, 1), (0x45F, 1), (0xA0, 1),
  (0x40E, 1), (0x45E, 1), (0x408, 1), (0xA4, 1), (0x490, 1), (0xA6, 2), (0x401, 1), (0xA9, 1),
  (0x404, 1), (0xAB, 4), (0x407, 1), (0xB0, 2), (0x406, 1), (0x456, 1), (0x491, 1), (0xB5, 3),
  (0x451, 1), (0x2116, 1), (0x454, 1), (0xBB, 1), (0x458, 1), (0x405, 1), (0x455, 1), (0x457, 1),
  (0x410, 64)]

def windows1252 : Table := [
  (0, 128), (0x20AC, 1), (0xFFFD, 1), (0x201A, 1), (0x192, 1), (0x201E, 1), (0x2026, 1),
  (0x2020, 2), (0x2C6, 1), (0x2030, 1), (0x160, 1), (0x2039, 1), (0x152, 1), (0xFFFD, 1),
  (0x17D, 1), (0xFFFD, 2), (0x2018, 2), (0x201C, 2), (0x2022, 1), (0x2013, 2), (0x2DC, 1),
  (0x2122, 1), (0x161, 1), (0x203A, 1), (0x153, 1), (0xFFFD, 1), (0x17E, 1), (0x178, 1), (0xA0, 96)]

def windows1253 : Table := [
  (0, 128), (0x20AC, 1), (0xFFFD, 1), (0x201A, 1), (0x192, 1), (0x201E, 1), (0x2026, 1),
  (0x2020, 2), (0xFFFD, 1), (0x2030, 1), (0xFFFD, 1), (0x2039, 1), (0xFFFD, 5), (0x2018, 2),
  (0x201C, 2), (0x2022, 1), (0x2013, 2), (0xFFFD, 1), (0x2122, 1), (0xFFFD, 1), (0x203A, 1),
  (0xFFFD, 4), (0xA0, 1), (0x385, 2), (0xA3, 7), (0xFFFD, 1), (0xAB, 4), (0x2015, 1), (0xB0, 4),
  (0x384, 1), (0xB5, 3), (0x388, 3), (0xBB, 1), (0x38C, 1), (0xBD, 1), (0x38E, 20), (0xFFFD, 1),
  (0x3A3, 44), (0xFFFD, 1)]

def windows1254 : Table := [
  (0, 128), (0x20AC, 1), (0xFFFD, 1), (0x201A, 1), (0x192, 1), (0x201E, 1), (0x2026, 1),
  (0x2020, 2), (0x2C6, 1), (0x2030, 1), (0x160, 1), (0x2039, 1), (0x152, 1), (0xFFFD, 4),
  (0x2018, 2), (0x201C, 2), (0x2022, 1), (0x2013, 2), (0x2DC, 1), (0x2122, 1), (0x161, 1),
  (0x203A, 1), (0x153, 1), (0xFFFD, 2), (0x178, 1), (0xA0, 48), (0x11E, 1), (0xD1, 12), (0x130, 1),
  (0x15E, 1), (0xDF, 17), (0x11F, 1), (0xF1, 12), (0x131, 1), (0x15F, 1), (0xFF, 1)]

def windows1255 : Table := [
  (0, 128), (0x20AC, 1), (0xFFFD, 1), (0x201A, 1), (0x192, 1), (0x201E, 1), (0x2026, 1),
  (0x2020, 2), (0x2C6, 1), (0x2030, 1), (0xFFFD, 1), (0x2039, 1), (0xFFFD, 5), (0x2018, 2),
  (0x201C, 2), (0x2022, 1), (0x2013, 2), (0x2DC, 1), (0x2122, 1), (0xFFFD, 1), (0x203A, 1),
  (0xFFFD, 4), (0xA0, 4), (0x20AA, 1), (0xA5, 5), (0xD7, 1), (0xAB, 15), (0xF7, 1), (0xBB, 5),
  (0x5B0, 10), (0xFFFD, 1), (0x5BB, 9), (0x5F0, 5), (0xFFFD, 7), (0x5D0, 27), (0xFFFD, 2),
  (0x200E, 2), (0xFFFD, 1)]

def windows1256 : Table := [
  (0, 128), (0x20AC, 1), (0x67E, 1), (0x201A, 1), (0x192, 1), (0x201E, 1), (0x2026, 1),
  (0x2020, 2), (0x2C6, 1), (0x2030, 1), (0x679, 1), (0x2039, 1), (0x152, 1), (0x686, 1),
  (0x698, 1), (0x688, 1), (0x6AF, 1), (0x2018, 2), (0x201C, 2), (0x2022, 1), (0x2013, 2),
  (0x6A9, 1), (0x2122, 1), (0x691, 1), (0x203A, 1), (0x153, 1), (0x200C, 2), (0x6BA, 1), (0xA0, 1),
  (0x60C, 1), (0xA2, 8), (0x6BE, 1), (0xAB, 15), (0x61B, 1), (0xBB, 4), (0x61F, 1), (0x6C1, 1),
  (0x621, 22), (0xD7, 1), (0x637, 4), (0x640, 4), (0xE0, 1), (0x644, 1), (0xE2, 1), (0x645, 4),
  (0xE7, 5), (0x649, 2), (0xEE, 2), (0x64B, 4), (0xF4, 1), (0x64F, 2), (0xF7, 1), (0x651, 1),
  (0xF9, 1), (0x652, 1), (0xFB, 2), (0x200E, 2), (0x6D2, 1)]

def windows1257 : Table := [
  (0, 128), (0x20AC, 1), (0xFFFD, 1), (0x201A, 1), (0xFFFD, 1), (0x201E, 1), (0x2026, 1),
  (0x2020, 2), (0xFFFD, 1), (0x2030, 1), (0xFFFD, 1), (0x2039, 1), (0xFFFD, 1), (0xA8, 1),
  (0x2C7, 1), (0xB8, 1), (0xFFFD, 1), (0x2018, 2), (0x201C, 2), (0x2022, 1), (0x2013, 2),
  (0xFFFD, 1), (0x2122, 1), (0xFFFD, 1), (0x203A, 1), (0xFFFD, 1), (0xAF, 1), (0x2DB, 1),
  (0xFFFD, 1), (0xA0, 1), (0xFFFD, 1), (0xA2, 3), (0xFFFD, 1), (0xA6, 2), (0xD8, 1), (0xA9, 1),
  (0x156, 1), (0xAB, 4), (0xC6, 1), (0xB0, 8), (0xF8, 1), (0xB9, 1), (0x157, 1), (0xBB, 4),
  (0xE6, 1), (0x104, 1), (0x12E, 1), (0x100, 1), (0x106, 1), (0xC4, 2), (0x118, 1), (0x112, 1),
  (0x10C, 1), (0xC9, 1), (0x179, 1), (0x116, 1), (0x122, 1), (0x136, 1), (0x12A, 1), (0x13B, 1),
  (0x160, 1), (0x143, 1), (0x145, 1), (0xD3, 1), (0x14C, 1), (0xD5, 3), (0x172, 1), (0x141, 1),
  (0x15A, 1), (0x16A, 1), (0xDC, 1), (0x17B, 1), (0x17D, 1), (0xDF, 1), (0x105, 1), (0x12F, 1),
  (0x101, 1), (0x107, 1), (0xE4, 2), (0x119, 1), (0x113, 1), (0x10D, 1), (0xE9, 1), (0x17A, 1),
  (0x117, 1), (0x123, 1), (0x137, 1), (0x12B, 1), (0x13C, 1), (0x161, 1), (0x144, 1), (0x146, 1),
  (0xF3, 1), (0x14D, 1), (0xF5, 3), (0x173, 1), (0x142, 1), (0x15B, 1), (0x16B, 1), (0xFC, 1),
  (0x17C, 1), (0x17E, 1), (0x2D9, 1)]

def windows1258 : Table := [
  (0, 128), (0x20AC, 1), (0xFFFD, 1), (0x201A, 1), (0x192, 1), (0x201E, 1), (0x2026, 1),
  (0x2020, 2), (0x2C6, 1), (0x2030, 1), (0xFFFD, 1), (0x2039, 1), (0x152, 1), (0xFFFD, 4),
  (0x2018, 2), (0x201C, 2), (0x2022, 1), (0x2013, 2), (0x2DC, 1), (0x2122, 1), (0xFFFD, 1),
  (0x203A, 1), (0x153, 1), (0xFFFD, 2), (0x178, 1), (0xA0, 35), (0x102, 1), (0xC4, 8), (0x300, 1),
  (0xCD, 3), (0x110, 1), (0xD1, 1), (0x309, 1), (0xD3, 2), (0x1A0, 1), (0xD6, 7), (0x1AF, 1),
  (0x303, 1), (0xDF, 4), (0x103, 1), (0xE4, 8), (0x301, 1), (0xED, 3), (0x111, 1), (0xF1, 1),
  (0x323, 1), (0xF3, 2), (0x1A1, 1), (0xF6, 7), (0x1B0, 1), (0x20AB, 1), (0xFF, 1)]

def codes (t : Table) : List Nat :=
  t.flatMap fun r =>
    if r.1 = 0xFFFD then List.replicate r.2 0xFFFD else (List.range r.2).map (r.1 + ·)

end Table

end BugArchive.Xml.Charset
