/-!
# Ligatures

Letters in one shape, which stand for several characters.
-/

namespace BridgeRelay.Url.HostName

/-- The ligatures, by the first of a row of neighbours and what these stand for. -/
def ligatureSequences : List (Nat × List (List Nat)) :=
  [(0xfb00, [[0x66, 0x66], [0x66, 0x69], [0x66, 0x6c], [0x66, 0x66, 0x69], [0x66, 0x66, 0x6c], [0x73, 0x74],
   [0x73, 0x74]]), (0xfb13, [[0x574, 0x576], [0x574, 0x565], [0x574, 0x56b], [0x57e, 0x576], [0x574, 0x56d]]),
   (0xfb1d, [[0x5d9, 0x5b4]]), (0xfb1f, [[0x5f2, 0x5b7]]), (0xfb2a, [[0x5e9, 0x5c1], [0x5e9, 0x5c2],
   [0x5e9, 0x5bc, 0x5c1], [0x5e9, 0x5bc, 0x5c2], [0x5d0, 0x5b7], [0x5d0, 0x5b8], [0x5d0, 0x5bc], [0x5d1, 0x5bc],
   [0x5d2, 0x5bc], [0x5d3, 0x5bc], [0x5d4, 0x5bc], [0x5d5, 0x5bc], [0x5d6, 0x5bc]]), (0xfb38, [[0x5d8, 0x5bc],
   [0x5d9, 0x5bc], [0x5da, 0x5bc], [0x5db, 0x5bc], [0x5dc, 0x5bc]]), (0xfb3e, [[0x5de, 0x5bc]]),
   (0xfb40, [[0x5e0, 0x5bc], [0x5e1, 0x5bc]]), (0xfb43, [[0x5e3, 0x5bc], [0x5e4, 0x5bc]]), (0xfb46, [[0x5e6, 0x5bc],
   [0x5e7, 0x5bc], [0x5e8, 0x5bc], [0x5e9, 0x5bc], [0x5ea, 0x5bc], [0x5d5, 0x5b9], [0x5d1, 0x5bf], [0x5db, 0x5bf],
   [0x5e4, 0x5bf], [0x5d0, 0x5dc]]), (0xfbdd, [[0x6c7, 0x674]]), (0xfbea, [[0x626, 0x627], [0x626, 0x627],
   [0x626, 0x6d5], [0x626, 0x6d5], [0x626, 0x648], [0x626, 0x648], [0x626, 0x6c7], [0x626, 0x6c7], [0x626, 0x6c6],
   [0x626, 0x6c6], [0x626, 0x6c8], [0x626, 0x6c8], [0x626, 0x6d0], [0x626, 0x6d0], [0x626, 0x6d0], [0x626, 0x649],
   [0x626, 0x649], [0x626, 0x649]]), (0xfc00, [[0x626, 0x62c], [0x626, 0x62d], [0x626, 0x645], [0x626, 0x649],
   [0x626, 0x64a], [0x628, 0x62c], [0x628, 0x62d], [0x628, 0x62e], [0x628, 0x645], [0x628, 0x649], [0x628, 0x64a],
   [0x62a, 0x62c], [0x62a, 0x62d], [0x62a, 0x62e], [0x62a, 0x645], [0x62a, 0x649], [0x62a, 0x64a], [0x62b, 0x62c],
   [0x62b, 0x645], [0x62b, 0x649], [0x62b, 0x64a], [0x62c, 0x62d], [0x62c, 0x645], [0x62d, 0x62c], [0x62d, 0x645],
   [0x62e, 0x62c], [0x62e, 0x62d], [0x62e, 0x645], [0x633, 0x62c], [0x633, 0x62d], [0x633, 0x62e], [0x633, 0x645],
   [0x635, 0x62d], [0x635, 0x645], [0x636, 0x62c], [0x636, 0x62d], [0x636, 0x62e], [0x636, 0x645], [0x637, 0x62d],
   [0x637, 0x645], [0x638, 0x645], [0x639, 0x62c], [0x639, 0x645], [0x63a, 0x62c], [0x63a, 0x645], [0x641, 0x62c],
   [0x641, 0x62d], [0x641, 0x62e], [0x641, 0x645], [0x641, 0x649], [0x641, 0x64a], [0x642, 0x62d], [0x642, 0x645],
   [0x642, 0x649], [0x642, 0x64a], [0x643, 0x627], [0x643, 0x62c], [0x643, 0x62d], [0x643, 0x62e], [0x643, 0x644],
   [0x643, 0x645], [0x643, 0x649], [0x643, 0x64a], [0x644, 0x62c], [0x644, 0x62d], [0x644, 0x62e], [0x644, 0x645],
   [0x644, 0x649], [0x644, 0x64a], [0x645, 0x62c], [0x645, 0x62d], [0x645, 0x62e], [0x645, 0x645], [0x645, 0x649],
   [0x645, 0x64a], [0x646, 0x62c], [0x646, 0x62d], [0x646, 0x62e], [0x646, 0x645], [0x646, 0x649], [0x646, 0x64a],
   [0x647, 0x62c], [0x647, 0x645], [0x647, 0x649], [0x647, 0x64a], [0x64a, 0x62c], [0x64a, 0x62d], [0x64a, 0x62e],
   [0x64a, 0x645], [0x64a, 0x649], [0x64a, 0x64a], [0x630, 0x670], [0x631, 0x670], [0x649, 0x670],
   [0x20, 0x64c, 0x651], [0x20, 0x64d, 0x651], [0x20, 0x64e, 0x651], [0x20, 0x64f, 0x651], [0x20, 0x650, 0x651],
   [0x20, 0x651, 0x670], [0x626, 0x631], [0x626, 0x632], [0x626, 0x645], [0x626, 0x646], [0x626, 0x649],
   [0x626, 0x64a], [0x628, 0x631], [0x628, 0x632], [0x628, 0x645], [0x628, 0x646], [0x628, 0x649], [0x628, 0x64a],
   [0x62a, 0x631], [0x62a, 0x632], [0x62a, 0x645], [0x62a, 0x646], [0x62a, 0x649], [0x62a, 0x64a], [0x62b, 0x631],
   [0x62b, 0x632], [0x62b, 0x645], [0x62b, 0x646], [0x62b, 0x649], [0x62b, 0x64a], [0x641, 0x649], [0x641, 0x64a],
   [0x642, 0x649], [0x642, 0x64a], [0x643, 0x627], [0x643, 0x644], [0x643, 0x645], [0x643, 0x649], [0x643, 0x64a],
   [0x644, 0x645], [0x644, 0x649], [0x644, 0x64a], [0x645, 0x627], [0x645, 0x645], [0x646, 0x631], [0x646, 0x632],
   [0x646, 0x645], [0x646, 0x646], [0x646, 0x649], [0x646, 0x64a], [0x649, 0x670], [0x64a, 0x631], [0x64a, 0x632],
   [0x64a, 0x645], [0x64a, 0x646], [0x64a, 0x649], [0x64a, 0x64a], [0x626, 0x62c], [0x626, 0x62d], [0x626, 0x62e],
   [0x626, 0x645], [0x626, 0x647], [0x628, 0x62c], [0x628, 0x62d], [0x628, 0x62e], [0x628, 0x645], [0x628, 0x647],
   [0x62a, 0x62c], [0x62a, 0x62d], [0x62a, 0x62e], [0x62a, 0x645], [0x62a, 0x647], [0x62b, 0x645], [0x62c, 0x62d],
   [0x62c, 0x645], [0x62d, 0x62c], [0x62d, 0x645], [0x62e, 0x62c], [0x62e, 0x645], [0x633, 0x62c], [0x633, 0x62d],
   [0x633, 0x62e], [0x633, 0x645], [0x635, 0x62d], [0x635, 0x62e], [0x635, 0x645], [0x636, 0x62c], [0x636, 0x62d],
   [0x636, 0x62e], [0x636, 0x645], [0x637, 0x62d], [0x638, 0x645], [0x639, 0x62c], [0x639, 0x645], [0x63a, 0x62c],
   [0x63a, 0x645], [0x641, 0x62c], [0x641, 0x62d], [0x641, 0x62e], [0x641, 0x645], [0x642, 0x62d], [0x642, 0x645],
   [0x643, 0x62c], [0x643, 0x62d], [0x643, 0x62e], [0x643, 0x644], [0x643, 0x645], [0x644, 0x62c], [0x644, 0x62d],
   [0x644, 0x62e], [0x644, 0x645], [0x644, 0x647], [0x645, 0x62c], [0x645, 0x62d], [0x645, 0x62e], [0x645, 0x645],
   [0x646, 0x62c], [0x646, 0x62d], [0x646, 0x62e], [0x646, 0x645], [0x646, 0x647], [0x647, 0x62c], [0x647, 0x645],
   [0x647, 0x670], [0x64a, 0x62c], [0x64a, 0x62d], [0x64a, 0x62e], [0x64a, 0x645], [0x64a, 0x647], [0x626, 0x645],
   [0x626, 0x647], [0x628, 0x645], [0x628, 0x647], [0x62a, 0x645], [0x62a, 0x647], [0x62b, 0x645], [0x62b, 0x647],
   [0x633, 0x645], [0x633, 0x647], [0x634, 0x645], [0x634, 0x647], [0x643, 0x644], [0x643, 0x645], [0x644, 0x645],
   [0x646, 0x645], [0x646, 0x647], [0x64a, 0x645], [0x64a, 0x647], [0x640, 0x64e, 0x651], [0x640, 0x64f, 0x651],
   [0x640, 0x650, 0x651], [0x637, 0x649], [0x637, 0x64a], [0x639, 0x649], [0x639, 0x64a], [0x63a, 0x649],
   [0x63a, 0x64a], [0x633, 0x649], [0x633, 0x64a], [0x634, 0x649], [0x634, 0x64a], [0x62d, 0x649], [0x62d, 0x64a],
   [0x62c, 0x649], [0x62c, 0x64a], [0x62e, 0x649], [0x62e, 0x64a], [0x635, 0x649], [0x635, 0x64a], [0x636, 0x649],
   [0x636, 0x64a], [0x634, 0x62c], [0x634, 0x62d], [0x634, 0x62e], [0x634, 0x645], [0x634, 0x631], [0x633, 0x631],
   [0x635, 0x631], [0x636, 0x631], [0x637, 0x649], [0x637, 0x64a], [0x639, 0x649], [0x639, 0x64a], [0x63a, 0x649],
   [0x63a, 0x64a], [0x633, 0x649], [0x633, 0x64a], [0x634, 0x649], [0x634, 0x64a], [0x62d, 0x649], [0x62d, 0x64a],
   [0x62c, 0x649], [0x62c, 0x64a], [0x62e, 0x649], [0x62e, 0x64a], [0x635, 0x649], [0x635, 0x64a], [0x636, 0x649],
   [0x636, 0x64a], [0x634, 0x62c], [0x634, 0x62d], [0x634, 0x62e], [0x634, 0x645], [0x634, 0x631], [0x633, 0x631],
   [0x635, 0x631], [0x636, 0x631], [0x634, 0x62c], [0x634, 0x62d], [0x634, 0x62e], [0x634, 0x645], [0x633, 0x647],
   [0x634, 0x647], [0x637, 0x645], [0x633, 0x62c], [0x633, 0x62d], [0x633, 0x62e], [0x634, 0x62c], [0x634, 0x62d],
   [0x634, 0x62e], [0x637, 0x645], [0x638, 0x645], [0x627, 0x64b], [0x627, 0x64b]]), (0xfd50, [[0x62a, 0x62c, 0x645],
   [0x62a, 0x62d, 0x62c], [0x62a, 0x62d, 0x62c], [0x62a, 0x62d, 0x645], [0x62a, 0x62e, 0x645], [0x62a, 0x645, 0x62c],
   [0x62a, 0x645, 0x62d], [0x62a, 0x645, 0x62e], [0x62c, 0x645, 0x62d], [0x62c, 0x645, 0x62d], [0x62d, 0x645, 0x64a],
   [0x62d, 0x645, 0x649], [0x633, 0x62d, 0x62c], [0x633, 0x62c, 0x62d], [0x633, 0x62c, 0x649], [0x633, 0x645, 0x62d],
   [0x633, 0x645, 0x62d], [0x633, 0x645, 0x62c], [0x633, 0x645, 0x645], [0x633, 0x645, 0x645], [0x635, 0x62d, 0x62d],
   [0x635, 0x62d, 0x62d], [0x635, 0x645, 0x645], [0x634, 0x62d, 0x645], [0x634, 0x62d, 0x645], [0x634, 0x62c, 0x64a],
   [0x634, 0x645, 0x62e], [0x634, 0x645, 0x62e], [0x634, 0x645, 0x645], [0x634, 0x645, 0x645], [0x636, 0x62d, 0x649],
   [0x636, 0x62e, 0x645], [0x636, 0x62e, 0x645], [0x637, 0x645, 0x62d], [0x637, 0x645, 0x62d], [0x637, 0x645, 0x645],
   [0x637, 0x645, 0x64a], [0x639, 0x62c, 0x645], [0x639, 0x645, 0x645], [0x639, 0x645, 0x645], [0x639, 0x645, 0x649],
   [0x63a, 0x645, 0x645], [0x63a, 0x645, 0x64a], [0x63a, 0x645, 0x649], [0x641, 0x62e, 0x645], [0x641, 0x62e, 0x645],
   [0x642, 0x645, 0x62d], [0x642, 0x645, 0x645], [0x644, 0x62d, 0x645], [0x644, 0x62d, 0x64a], [0x644, 0x62d, 0x649],
   [0x644, 0x62c, 0x62c], [0x644, 0x62c, 0x62c], [0x644, 0x62e, 0x645], [0x644, 0x62e, 0x645], [0x644, 0x645, 0x62d],
   [0x644, 0x645, 0x62d], [0x645, 0x62d, 0x62c], [0x645, 0x62d, 0x645], [0x645, 0x62d, 0x64a], [0x645, 0x62c, 0x62d],
   [0x645, 0x62c, 0x645], [0x645, 0x62e, 0x62c], [0x645, 0x62e, 0x645]]), (0xfd92, [[0x645, 0x62c, 0x62e],
   [0x647, 0x645, 0x62c], [0x647, 0x645, 0x645], [0x646, 0x62d, 0x645], [0x646, 0x62d, 0x649], [0x646, 0x62c, 0x645],
   [0x646, 0x62c, 0x645], [0x646, 0x62c, 0x649], [0x646, 0x645, 0x64a], [0x646, 0x645, 0x649], [0x64a, 0x645, 0x645],
   [0x64a, 0x645, 0x645], [0x628, 0x62e, 0x64a], [0x62a, 0x62c, 0x64a], [0x62a, 0x62c, 0x649], [0x62a, 0x62e, 0x64a],
   [0x62a, 0x62e, 0x649], [0x62a, 0x645, 0x64a], [0x62a, 0x645, 0x649], [0x62c, 0x645, 0x64a], [0x62c, 0x62d, 0x649],
   [0x62c, 0x645, 0x649], [0x633, 0x62e, 0x649], [0x635, 0x62d, 0x64a], [0x634, 0x62d, 0x64a], [0x636, 0x62d, 0x64a],
   [0x644, 0x62c, 0x64a], [0x644, 0x645, 0x64a], [0x64a, 0x62d, 0x64a], [0x64a, 0x62c, 0x64a], [0x64a, 0x645, 0x64a],
   [0x645, 0x645, 0x64a], [0x642, 0x645, 0x64a], [0x646, 0x62d, 0x64a], [0x642, 0x645, 0x62d], [0x644, 0x62d, 0x645],
   [0x639, 0x645, 0x64a], [0x643, 0x645, 0x64a], [0x646, 0x62c, 0x62d], [0x645, 0x62e, 0x64a], [0x644, 0x62c, 0x645],
   [0x643, 0x645, 0x645], [0x644, 0x62c, 0x645], [0x646, 0x62c, 0x62d], [0x62c, 0x62d, 0x64a], [0x62d, 0x62c, 0x64a],
   [0x645, 0x62c, 0x64a], [0x641, 0x645, 0x64a], [0x628, 0x62d, 0x64a], [0x643, 0x645, 0x645], [0x639, 0x62c, 0x645],
   [0x635, 0x645, 0x645], [0x633, 0x62e, 0x64a], [0x646, 0x62c, 0x64a]]), (0xfdf0, [[0x635, 0x644, 0x6d2],
   [0x642, 0x644, 0x6d2], [0x627, 0x644, 0x644, 0x647], [0x627, 0x643, 0x628, 0x631], [0x645, 0x62d, 0x645, 0x62f],
   [0x635, 0x644, 0x639, 0x645], [0x631, 0x633, 0x648, 0x644], [0x639, 0x644, 0x64a, 0x647],
   [0x648, 0x633, 0x644, 0x645], [0x635, 0x644, 0x649], [0x635, 0x644, 0x649, 0x20, 0x627, 0x644, 0x644, 0x647, 0x20,
   0x639, 0x644, 0x64a, 0x647, 0x20, 0x648, 0x633, 0x644, 0x645],
   [0x62c, 0x644, 0x20, 0x62c, 0x644, 0x627, 0x644, 0x647], [0x631, 0x6cc, 0x627, 0x644]]), (0xfe49, [[0x20, 0x305],
   [0x20, 0x305], [0x20, 0x305], [0x20, 0x305]]), (0xfe70, [[0x20, 0x64b], [0x640, 0x64b], [0x20, 0x64c]]),
   (0xfe74, [[0x20, 0x64d]]), (0xfe76, [[0x20, 0x64e], [0x640, 0x64e], [0x20, 0x64f], [0x640, 0x64f], [0x20, 0x650],
   [0x640, 0x650], [0x20, 0x651], [0x640, 0x651], [0x20, 0x652], [0x640, 0x652]]), (0xfef5, [[0x644, 0x622],
   [0x644, 0x622], [0x644, 0x623], [0x644, 0x623], [0x644, 0x625], [0x644, 0x625], [0x644, 0x627], [0x644, 0x627]]),
   (0xffe3, [[0x20, 0x304]])]

end BridgeRelay.Url.HostName
